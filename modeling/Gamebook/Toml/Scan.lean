import Gamebook.Text.Blank
import Gamebook.Number.Power
import Gamebook.Text.Numeral

namespace Gamebook
namespace Toml

/-!
# Strings, numbers and times of a settings file

Each reader takes what it can from the start of a text and returns the rest, or
nothing when the text is not well written.
-/

/-- A blank within a line. -/
def isSpace (c : Char) : Bool := c = ' ' || c = '\t'

/-- The text without the blanks at its start. -/
def skipSpaces (cs : List Char) : List Char := cs.dropWhile isSpace

/-- A character that may stand in a comment. -/
def isPlain (c : Char) : Bool := c = '\t' || (0x20 ≤ c.toNat && c.toNat ≠ 0x7F)

def readLineEnd : List Char → Option (List Char)
  | [] => some []
  | '\n' :: cs => some cs
  | '\r' :: '\n' :: cs => some cs
  | _ => none

/-- The text after the rest of a line that holds no more than a comment. -/
def readLineRest (cs : List Char) : Option (List Char) :=
  match skipSpaces cs with
  | '#' :: cs => readLineEnd (cs.dropWhile isPlain)
  | cs => readLineEnd cs

/-- The text after blanks, line ends and comments.  A comment ends with its line. -/
def skipLines (inComment : Bool) : List Char → List Char
  | [] => []
  | '\n' :: cs => skipLines false cs
  | '\r' :: '\n' :: cs => skipLines false cs
  | c :: cs =>
    if inComment then if isPlain c then skipLines true cs else c :: cs
    else if isSpace c then skipLines false cs
    else if c = '#' then skipLines true cs
    else c :: cs

/-! ## Strings -/

/-- The number that hexadecimal digits write. -/
def hexNumber? (value : Nat) : List Char → Option Nat
  | [] => some value
  | c :: cs => (Text.hexValue? c).bind fun digit => hexNumber? (16 * value + digit) cs

/-- The character that has the code point. -/
def charOf? (code : Nat) : Option Char :=
  if code.isValidChar then some (Char.ofNat code) else none

/-- The character whose code the hexadecimal digits write. -/
def coded? (digits : List Char) : Option Char := (hexNumber? 0 digits).bind charOf?

/-- The character that an escape with one letter stands for. -/
def escaped? : Char → Option Char
  | 'b' => some '\x08'
  | 't' => some '\t'
  | 'n' => some '\n'
  | 'f' => some '\x0c'
  | 'r' => some '\r'
  | '"' => some '"'
  | '\\' => some '\\'
  | _ => none

/-- Put a character before what is read of a string. -/
def before (c : Char) : Option (List Char × List Char) → Option (List Char × List Char) :=
  Option.map fun (value, rest) => (c :: value, rest)

/-- Read a string up to its quotation mark. -/
def readBasic : List Char → Option (List Char × List Char)
  | [] => none
  | '"' :: cs => some ([], cs)
  | '\\' :: 'u' :: a :: b :: c :: d :: cs =>
    (coded? [a, b, c, d]).bind fun x => before x (readBasic cs)
  | '\\' :: 'U' :: a :: b :: c :: d :: e :: f :: g :: h :: cs =>
    (coded? [a, b, c, d, e, f, g, h]).bind fun x => before x (readBasic cs)
  | '\\' :: c :: cs => (escaped? c).bind fun x => before x (readBasic cs)
  | c :: cs => if isPlain c && c ≠ '\\' then before c (readBasic cs) else none

/-- Says whether a backslash here joins its line with the next. -/
def joinsLines (cs : List Char) : Bool :=
  match skipSpaces cs with
  | '\n' :: _ => true
  | '\r' :: '\n' :: _ => true
  | _ => false

/-- Read a string of several lines up to its three quotation marks.  Up to two
more before them belong to the string.  After a backslash at the end of a line,
`skipping` blanks and line ends are left out. -/
def readLongBasic (skipping : Bool) : List Char → Option (List Char × List Char)
  | [] => none
  | '"' :: '"' :: '"' :: '"' :: '"' :: cs => some (['"', '"'], cs)
  | '"' :: '"' :: '"' :: '"' :: cs => some (['"'], cs)
  | '"' :: '"' :: '"' :: cs => some ([], cs)
  | '\r' :: '\n' :: cs =>
    if skipping then readLongBasic true cs else before '\n' (readLongBasic false cs)
  | '\n' :: cs =>
    if skipping then readLongBasic true cs else before '\n' (readLongBasic false cs)
  | '\\' :: 'u' :: a :: b :: c :: d :: cs =>
    (coded? [a, b, c, d]).bind fun x => before x (readLongBasic false cs)
  | '\\' :: 'U' :: a :: b :: c :: d :: e :: f :: g :: h :: cs =>
    (coded? [a, b, c, d, e, f, g, h]).bind fun x => before x (readLongBasic false cs)
  | '\\' :: c :: cs =>
    if joinsLines (c :: cs) then readLongBasic true (c :: cs)
    else (escaped? c).bind fun x => before x (readLongBasic false cs)
  | c :: cs =>
    if skipping && isSpace c then readLongBasic true cs
    else if isPlain c && c ≠ '\\' then before c (readLongBasic false cs)
    else none

/-- Read a literal string up to its apostrophe. -/
def readLiteral : List Char → Option (List Char × List Char)
  | [] => none
  | '\'' :: cs => some ([], cs)
  | c :: cs => if isPlain c then before c (readLiteral cs) else none

/-- Read a literal string of several lines up to its three apostrophes. -/
def readLongLiteral : List Char → Option (List Char × List Char)
  | [] => none
  | '\'' :: '\'' :: '\'' :: '\'' :: '\'' :: cs => some (['\'', '\''], cs)
  | '\'' :: '\'' :: '\'' :: '\'' :: cs => some (['\''], cs)
  | '\'' :: '\'' :: '\'' :: cs => some ([], cs)
  | '\r' :: '\n' :: cs => before '\n' (readLongLiteral cs)
  | '\n' :: cs => before '\n' (readLongLiteral cs)
  | c :: cs => if isPlain c then before c (readLongLiteral cs) else none

/-- The text without a line end at its start. -/
def dropLineEnd : List Char → List Char
  | '\n' :: cs => cs
  | '\r' :: '\n' :: cs => cs
  | cs => cs

/-- Read a string of any form, if one starts here. -/
def readString : List Char → Option (List Char × List Char)
  | '"' :: '"' :: '"' :: cs => readLongBasic false (dropLineEnd cs)
  | '"' :: cs => readBasic cs
  | '\'' :: '\'' :: '\'' :: cs => readLongLiteral (dropLineEnd cs)
  | '\'' :: cs => readLiteral cs
  | _ => none

/-! ## Numbers -/

/-- Read digits, which may be separated by single underscores.  `digit` tells
whether one must come next. -/
def readDigits (accepts : Char → Bool) (digit : Bool) : List Char → Option (List Char × List Char)
  | [] => if digit then none else some ([], [])
  | c :: cs =>
    if accepts c then before c (readDigits accepts false cs)
    else if digit then none
    else if c = '_' then readDigits accepts true cs
    else some ([], c :: cs)

/-- Read a sign, and tell whether it is a minus. -/
def readSign : List Char → Bool × List Char
  | '+' :: cs => (false, cs)
  | '-' :: cs => (true, cs)
  | cs => (false, cs)

/-- Read the digits of a decimal number.  A zero at the start stands alone. -/
def readDecimal : List Char → Option (List Char × List Char)
  | '0' :: cs => some (['0'], cs)
  | cs => readDigits Char.isDigit true cs

def valueIn (base : Nat) (digits : List Char) : Nat :=
  digits.foldl (fun value c => base * value + (Text.hexValue? c).getD 0) 0

/-- The number itself, when it fits 64 bits with a sign. -/
def integer? (value : Int) : Option Int :=
  match Text.NumeralRange.int64.fit value with
  | .ok value => some value
  | .error _ => none

/-- The least number that rounds to infinity as a binary64 number. -/
def roundsToInfinity : Nat := Number.twoTo 1024 - Number.twoTo 970

/-- Says whether digits times a power of ten are too large for a binary64
number. -/
def isTooLarge (digits : List Char) (exponent : Int) : Bool :=
  let digits := digits.dropWhile (· = '0')
  let places := digits.length + exponent
  if digits.isEmpty || places < 300 then false
  else if 400 < places then true
  else if 0 ≤ exponent then roundsToInfinity ≤ valueIn 10 digits * Number.tenTo exponent.toNat
  else roundsToInfinity * Number.tenTo (-exponent).toNat ≤ valueIn 10 digits

/-- Read the digits after a point. -/
def readFraction : List Char → Option (List Char × List Char)
  | '.' :: cs => readDigits Char.isDigit true cs
  | cs => some ([], cs)

/-- Read the power of ten of a number. -/
def readExponent (cs : List Char) : Option (Int × List Char) :=
  match cs with
  | c :: rest =>
    if c = 'e' || c = 'E' then
      let (down, rest) := readSign rest
      (readDigits Char.isDigit true rest).map fun (digits, rest) =>
        let size : Int := valueIn 10 digits
        (if down then -size else size, rest)
    else some (0, cs)
  | [] => some (0, cs)

/-- A number: whole, or with a point or an exponent. -/
inductive Number
  | integer (value : Int)
  | float
  deriving DecidableEq, Repr

/-- Read a decimal number, or the name of an infinite or undefined one. -/
def readSigned (cs : List Char) : Option (Number × List Char) :=
  let (negative, cs) := readSign cs
  match cs with
  | 'i' :: 'n' :: 'f' :: cs => some (.float, cs)
  | 'n' :: 'a' :: 'n' :: cs => some (.float, cs)
  | cs => do
    let (whole, rest) ← readDecimal cs
    match rest with
    | '.' :: _ | 'e' :: _ | 'E' :: _ =>
      let (fraction, rest) ← readFraction rest
      let (exponent, rest) ← readExponent rest
      if !negative && isTooLarge (whole ++ fraction) (exponent - fraction.length) then none
      else some (.float, rest)
    | rest =>
      let size : Int := valueIn 10 whole
      let value ← integer? (if negative then -size else size)
      some (.integer value, rest)

def readBased (base : Nat) (accepts : Char → Bool) (cs : List Char) :
    Option (Number × List Char) := do
  let (digits, rest) ← readDigits accepts true cs
  let value ← integer? (valueIn base digits)
  some (.integer value, rest)

def readNumber : List Char → Option (Number × List Char)
  | '0' :: 'x' :: cs => readBased 16 (fun c => (Text.hexValue? c).isSome) cs
  | '0' :: 'o' :: cs => readBased 8 (fun c => '0' ≤ c && c ≤ '7') cs
  | '0' :: 'b' :: cs => readBased 2 (fun c => c = '0' || c = '1') cs
  | cs => readSigned cs

/-! ## Dates and times -/

/-- Read a number of exactly so many digits that lies in a range. -/
def readField (width least most : Nat) (cs : List Char) : Option (Nat × List Char) :=
  let digits := cs.take width
  let value := valueIn 10 digits
  if digits.length = width && digits.all Char.isDigit && least ≤ value && value ≤ most then
    some (value, cs.drop width)
  else none

/-- The text after a character that must come first. -/
def readMark (mark : Char) : List Char → Option (List Char)
  | c :: cs => if c = mark then some cs else none
  | [] => none

def daysIn (year month : Nat) : Nat :=
  if month = 2 then
    if year % 4 = 0 && (year % 100 ≠ 0 || year % 400 = 0) then 29 else 28
  else if month = 4 || month = 6 || month = 9 || month = 11 then 30
  else 31

def readDate (cs : List Char) : Option (List Char) := do
  let (year, cs) ← readField 4 0 9999 cs
  let (month, cs) ← readField 2 1 12 (← readMark '-' cs)
  let (_, cs) ← readField 2 1 (daysIn year month) (← readMark '-' cs)
  some cs

def readTime (cs : List Char) : Option (List Char) := do
  let (_, cs) ← readField 2 0 23 cs
  let (_, cs) ← readField 2 0 59 (← readMark ':' cs)
  let (_, cs) ← readField 2 0 60 (← readMark ':' cs)
  match cs with
  | '.' :: c :: rest => some (if c.isDigit then rest.dropWhile Char.isDigit else cs)
  | cs => some cs

def readOffset : List Char → Option (List Char)
  | [] => none
  | c :: cs =>
    if c = 'Z' || c = 'z' then some cs
    else if c = '+' || c = '-' then do
      let (_, cs) ← readField 2 0 23 cs
      let (_, cs) ← readField 2 0 59 (← readMark ':' cs)
      some cs
    else none

def readTimeOfDate (cs : List Char) : Option (List Char) :=
  match cs with
  | [] => none
  | c :: rest =>
    if c = 'T' || c = 't' || c = ' ' then
      (readTime rest).map fun rest => (readOffset rest).getD rest
    else none

/-- Read a date, a time, or both. -/
def readMoment (cs : List Char) : Option (List Char) :=
  match readDate cs with
  | some rest => some ((readTimeOfDate rest).getD rest)
  | none => readTime cs

end Toml
end Gamebook
