import Gamebook.Toml.Scan
import Gamebook.Toml.Table

namespace Gamebook
namespace Toml

/-!
# Reading a settings file

A settings file is a sequence of lines: keys with values, and headers that say
into which table the keys that follow belong.
-/

/-! ## Keys -/

/-- Says whether the character may stand in a key without quotation marks. -/
def isBare (c : Char) : Bool :=
  c.isDigit || ('a' ≤ c && c ≤ 'z') || ('A' ≤ c && c ≤ 'Z') || c = '-' || c = '_'

def readPart (cs : List Char) : Option (String × List Char) :=
  match cs with
  | '"' :: rest => (readBasic rest).map fun (value, rest) => (String.ofList value, rest)
  | '\'' :: rest => (readLiteral rest).map fun (value, rest) => (String.ofList value, rest)
  | cs =>
    match cs.takeWhile isBare with
    | [] => none
    | word => some (String.ofList word, cs.dropWhile isBare)

/-- The number of parts that a key may have, and of levels that values may be
nested. -/
def greatestDepth : Nat := 79

/-- Read a key of at most so many parts.  Blanks around the parts do not count. -/
def readKey : Nat → List Char → Option (List String × List Char)
  | 0, _ => none
  | most + 1, cs => do
    let (part, rest) ← readPart (skipSpaces cs)
    match skipSpaces rest with
    | '.' :: rest =>
      let (parts, rest) ← readKey most rest
      some (part :: parts, rest)
    | rest => some ([part], rest)

/-- A key with the item that belongs under it. -/
structure Pair where
  path : List String
  key : String
  item : Item
  deriving Repr

/-- The parts of a key before the last, and the last. -/
def splitKey (parts : List String) : List String × String :=
  (parts.dropLast, parts.getLast?.getD "")

/-! ## Values -/

/-- Read a value that holds no others. -/
def readScalar (cs : List Char) : Option (Item × List Char) :=
  match cs with
  | 't' :: 'r' :: 'u' :: 'e' :: rest => some (.bool true, rest)
  | 'f' :: 'a' :: 'l' :: 's' :: 'e' :: rest => some (.bool false, rest)
  | c :: _ =>
    if c = '"' || c = '\'' then
      (readString cs).map fun (value, rest) => (.string (String.ofList value), rest)
    else
      match readMoment cs with
      | some rest => some (.moment, rest)
      | none =>
        (readNumber cs).map fun (number, rest) =>
          match number with
          | .integer value => (.integer value, rest)
          | .float => (.float, rest)
  | [] => none

/-- Put the pairs of an inner table into it, in order. -/
def putAll : List Pair → Members → Option Members
  | [], members => some members
  | pair :: pairs, members => do
    putAll pairs (← putAt pair.path pair.key pair.item .inside members)

mutual

/-- Read a value.  Every step of the three readers takes a character or follows
one that has, so twice the length of the text is `fuel` enough. -/
def readValue (fuel depth : Nat) (cs : List Char) : Option (Item × List Char) :=
  match fuel with
  | 0 => none
  | fuel + 1 =>
    match cs with
    | '[' :: rest =>
      if depth = 0 then none
      else
        (readItems fuel (depth - 1) rest).map fun (items, rest) => (.array items, rest)
    | '\x7b' :: rest =>
      if depth = 0 then none
      else
        match skipSpaces rest with
        | '\x7d' :: rest => some (.table .inside [], rest)
        | rest => do
          let (pairs, rest) ← readPairs fuel (depth - 1) rest
          some (.table .inside (← putAll pairs []), rest)
    | cs => readScalar cs

/-- Read the items of a list and its closing bracket.  A comma may follow the
last item, and the items may stand on lines of their own. -/
def readItems (fuel depth : Nat) (cs : List Char) : Option (List Item × List Char) :=
  match fuel with
  | 0 => none
  | fuel + 1 =>
    match skipLines false cs with
    | ']' :: rest => some ([], rest)
    | cs => do
      let (item, rest) ← readValue fuel depth cs
      match skipLines false rest with
      | ',' :: rest =>
        let (items, rest) ← readItems fuel depth rest
        some (item :: items, rest)
      | ']' :: rest => some ([item], rest)
      | _ => none

/-- Read the pairs of an inner table and its closing brace. -/
def readPairs (fuel depth : Nat) (cs : List Char) : Option (List Pair × List Char) :=
  match fuel with
  | 0 => none
  | fuel + 1 => do
    let (parts, rest) ← readKey greatestDepth cs
    let rest ← readMark '=' rest
    let (item, rest) ← readValue fuel depth (skipSpaces rest)
    let (path, key) := splitKey parts
    match skipSpaces rest with
    | ',' :: rest =>
      let (pairs, rest) ← readPairs fuel depth rest
      some (⟨path, key, item⟩ :: pairs, rest)
    | '\x7d' :: rest => some ([⟨path, key, item⟩], rest)
    | _ => none

end

/-! ## Lines -/

/-- The tables so far, and the path of the table to which keys are added. -/
structure Progress where
  root : Members
  current : List String
  deriving Repr

/-- Read a key with its value, and put it into the current table. -/
def readPair (state : Progress) (cs : List Char) : Option (Progress × List Char) := do
  let (parts, rest) ← readKey greatestDepth cs
  let rest ← readMark '=' rest
  let (item, rest) ← readValue (2 * rest.length + 2) greatestDepth (skipSpaces rest)
  let rest ← readLineRest rest
  let (path, key) := splitKey parts
  let root ← alter false (putAt path key item) state.current .header state.root
  some ({ state with root }, rest)

/-- Begin what a header names. -/
def enter (state : Progress) (parts : List String)
    (start : String → Members → Option Members) : Option Progress := do
  let (path, key) := splitKey parts
  let root ← alter false (fun _ members => start key members) path .header state.root
  some ⟨root, parts⟩

def readHeader (state : Progress) (cs : List Char) : Option (Progress × List Char) :=
  match cs with
  | '[' :: '[' :: rest => do
    let (parts, rest) ← readKey greatestDepth rest
    let rest ← readMark ']' (← readMark ']' rest)
    some (← enter state parts beginTables, ← readLineRest rest)
  | '[' :: rest => do
    let (parts, rest) ← readKey greatestDepth rest
    let rest ← readMark ']' rest
    some (← enter state parts beginTable, ← readLineRest rest)
  | _ => none

/-- Read lines.  Each takes a character at least, so the length of the text is
enough for `fuel`. -/
def readLines : Nat → Progress → List Char → Option Members
  | 0, state, cs => if cs.isEmpty then some state.root else none
  | fuel + 1, state, cs =>
    match skipSpaces cs with
    | [] => some state.root
    | '#' :: rest => (readLineEnd (rest.dropWhile isPlain)).bind (readLines fuel state)
    | '\n' :: rest => readLines fuel state rest
    | '\r' :: rest => (readMark '\n' rest).bind (readLines fuel state)
    | '[' :: rest =>
      (readHeader state ('[' :: rest)).bind fun (state, rest) => readLines fuel state rest
    | cs => (readPair state cs).bind fun (state, rest) => readLines fuel state rest

/-- The members of a settings file, if it is well written.  A byte order mark at
its start does not count. -/
def read (text : String) : Option Members :=
  let cs :=
    match text.toList with
    | '\uFEFF' :: cs => cs
    | cs => cs
  readLines cs.length ⟨[], []⟩ cs

end Toml
end Gamebook
