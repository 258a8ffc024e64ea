import Gamebook.Json.Numeral
import Gamebook.Text.Size

namespace Gamebook
namespace Json

/-!
# Tokens of a document

A text is cut into brackets, commas, words, numbers and strings.  The cut goes
on to the first token that is not well written, which stands for the rest of
the text.
-/

/-- A token of a document.  A broken token is the last one. -/
inductive Token
  | openBracket
  | closeBracket
  | openBrace
  | closeBrace
  | colon
  | comma
  | null
  | bool (value : Bool)
  | number (value : Numeral)
  | string (value : String)
  | brokenString (fault : Fault)
  | broken (fault : Fault)
  deriving DecidableEq, Repr

/-! ## Strings -/

/-- Read four hexadecimal digits, and return the rest.  The text is taken to end
too early when fewer than four bytes are left. -/
def readHex : List Char → Except Fault (Nat × List Char)
  | a :: b :: c :: d :: rest =>
    match Text.hexValue? a, Text.hexValue? b, Text.hexValue? c, Text.hexValue? d with
    | some a, some b, some c, some d => .ok (4096 * a + 256 * b + 16 * c + d, rest)
    | _, _, _, _ => .error .invalidEscape
  | cs => if Text.byteLength cs < 4 then .error .endInString else .error .invalidEscape

/-- The character that two surrogates stand for. -/
def joinSurrogates (high low : Nat) : Char :=
  Char.ofNat (0x10000 + 0x400 * (high - 0xD800) + (low - 0xDC00))

/-- Read the second of two surrogates, which is escaped like the first. -/
def readLowSurrogate (high : Nat) : List Char → Except Fault (Char × List Char)
  | [] => .error .endInString
  | ['\\'] => .error .endInString
  | '\\' :: 'u' :: rest =>
    match readHex rest with
    | .error fault => .error fault
    | .ok (low, rest) =>
      if low < 0xDC00 ∨ 0xDFFF < low then .error .loneSurrogate
      else .ok (joinSurrogates high low, rest)
  | _ => .error .endOfHexEscape

/-- Read a character given by its code, after the letter that announces it.  A
code point beyond the first 65536 is written as two surrogates. -/
def readCode (cs : List Char) : Except Fault (Char × List Char) :=
  match readHex cs with
  | .error fault => .error fault
  | .ok (code, rest) =>
    if 0xDC00 ≤ code ∧ code ≤ 0xDFFF then .error .loneSurrogate
    else if code < 0xD800 ∨ 0xDBFF < code then .ok (Char.ofNat code, rest)
    else readLowSurrogate code rest

def readEscape : List Char → Except Fault (Char × List Char)
  | [] => .error .endInString
  | '"' :: rest => .ok ('"', rest)
  | '\\' :: rest => .ok ('\\', rest)
  | '/' :: rest => .ok ('/', rest)
  | 'b' :: rest => .ok ('\x08', rest)
  | 'f' :: rest => .ok ('\x0c', rest)
  | 'n' :: rest => .ok ('\n', rest)
  | 'r' :: rest => .ok ('\r', rest)
  | 't' :: rest => .ok ('\t', rest)
  | 'u' :: rest => readCode rest
  | _ => .error .invalidEscape

theorem readHex_length {cs rest : List Char} {code : Nat} (read : readHex cs = .ok (code, rest)) :
    rest.length < cs.length := by
  unfold readHex at read
  split at read
  · split at read
    · cases read
      simp only [List.length_cons]
      omega
    · cases read
  · split at read <;> cases read

theorem readLowSurrogate_length {high : Nat} {cs rest : List Char} {c : Char}
    (read : readLowSurrogate high cs = .ok (c, rest)) : rest.length < cs.length := by
  unfold readLowSurrogate at read
  split at read
  · cases read
  · cases read
  · rename_i after
    cases second : readHex after with
    | error fault => simp only [second] at read; cases read
    | ok pair =>
      have shorter := readHex_length second
      simp only [second] at read
      split at read
      · cases read
      · simp only [Except.ok.injEq, Prod.mk.injEq] at read
        rcases read with ⟨_, rfl⟩
        simp only [List.length_cons]
        omega
  · cases read

theorem readCode_length {cs rest : List Char} {c : Char} (read : readCode cs = .ok (c, rest)) :
    rest.length < cs.length := by
  unfold readCode at read
  cases first : readHex cs with
  | error fault => simp only [first] at read; cases read
  | ok pair =>
    have shorter := readHex_length first
    simp only [first] at read
    split at read
    · cases read
    · split at read
      · simp only [Except.ok.injEq, Prod.mk.injEq] at read
        rcases read with ⟨_, rfl⟩
        exact shorter
      · exact Nat.lt_trans (readLowSurrogate_length read) shorter

theorem readEscape_length {cs rest : List Char} {c : Char}
    (read : readEscape cs = .ok (c, rest)) : rest.length < cs.length := by
  unfold readEscape at read
  split at read
  case h_10 => exact Nat.lt_succ_of_lt (readCode_length read)
  all_goals simp_all

/-- Read a string after its opening quotation mark, and return the rest. -/
def readString : List Char → Except Fault (List Char × List Char)
  | [] => .error .endInString
  | '"' :: rest => .ok ([], rest)
  | '\\' :: rest =>
    match read : readEscape rest with
    | .error fault => .error fault
    | .ok (c, rest') =>
      have := readEscape_length read
      do
        let (more, rest'') ← readString rest'
        .ok (c :: more, rest'')
  | c :: rest =>
    if c.toNat < 0x20 then .error .controlCharacter
    else do
      let (more, rest') ← readString rest
      .ok (c :: more, rest')
  termination_by cs => cs.length

/-! ## Cutting a text -/

/-- The blanks that may stand between tokens. -/
def isBlank (c : Char) : Bool :=
  c = ' ' || c = '\n' || c = '\t' || c = '\r'

/-- Read the rest of a word, letter by letter. -/
def readWord : List Char → List Char → Except Fault (List Char)
  | [], cs => .ok cs
  | _ :: _, [] => .error .endInValue
  | w :: word, c :: cs => if w = c then readWord word cs else .error .expectedWord

/-- Read the token that starts with the given character, and return the text
after it, or nothing when the token is broken. -/
def readToken (c : Char) (rest : List Char) : Token × Option (List Char) :=
  let word (letters : String) (token : Token) :=
    match readWord letters.toList rest with
    | .ok rest => (token, some rest)
    | .error fault => (.broken fault, none)
  match c with
  | '[' => (.openBracket, some rest)
  | ']' => (.closeBracket, some rest)
  | '\x7b' => (.openBrace, some rest)
  | '\x7d' => (.closeBrace, some rest)
  | ':' => (.colon, some rest)
  | ',' => (.comma, some rest)
  | 'n' => word "ull" .null
  | 't' => word "rue" (.bool true)
  | 'f' => word "alse" (.bool false)
  | '"' =>
    match readString rest with
    | .ok (value, rest) => (.string (String.ofList value), some rest)
    | .error fault => (.brokenString fault, none)
  | c =>
    if c = '-' || c.isDigit then
      match readNumeral (c :: rest) with
      | .ok (value, rest) => (.number value, some rest)
      | .error fault => (.broken fault, none)
    else (.broken .expectedValue, none)

theorem readWord_length {word cs rest : List Char} (read : readWord word cs = .ok rest) :
    rest.length ≤ cs.length := by
  induction word generalizing cs with
  | nil => cases read; exact Nat.le_refl _
  | cons w word ih =>
    cases cs with
    | nil => cases read
    | cons c cs =>
      simp only [readWord] at read
      split at read
      · exact Nat.le_succ_of_le (ih read)
      · cases read

theorem readString_length {cs rest value : List Char} (read : readString cs = .ok (value, rest)) :
    rest.length ≤ cs.length := by
  fun_induction readString cs generalizing value rest with
  | case1 => cases read
  | case2 => cases read; exact Nat.le_succ _
  | case3 => cases read
  | case4 after c middle escape shorter ih =>
    cases tail : readString middle with
    | error fault => simp only [tail, bind, Except.bind] at read; cases read
    | ok pair =>
      simp only [tail, bind, Except.bind] at read
      cases read
      exact Nat.le_succ_of_le (Nat.le_trans (ih tail) (Nat.le_of_lt shorter))
  | case5 => cases read
  | case6 c after _ _ _ ih =>
    cases tail : readString after with
    | error fault => simp only [tail, bind, Except.bind] at read; cases read
    | ok pair =>
      simp only [tail, bind, Except.bind] at read
      cases read
      exact Nat.le_succ_of_le (ih tail)

theorem readToken_length {c : Char} {cs rest : List Char} {token : Token}
    (read : readToken c cs = (token, some rest)) : rest.length ≤ cs.length := by
  unfold readToken at read
  split at read
  case h_7 | h_8 | h_9 =>
    simp only at read
    split at read
    · next after found =>
      cases read
      exact readWord_length found
    · cases read
  case h_10 =>
    split at read
    · next found =>
      cases read
      exact readString_length found
    · cases read
  case h_11 =>
    split at read
    · split at read
      · next found =>
        cases read
        exact readNumeral_length found
      · cases read
    · cases read
  all_goals
    cases read
    exact Nat.le_refl _

/-- Cut a text into tokens. -/
def tokens : List Char → List Token
  | [] => []
  | c :: rest =>
    if isBlank c then tokens rest
    else
      match read : readToken c rest with
      | (token, some rest') =>
        have := readToken_length read
        token :: tokens rest'
      | (token, none) => [token]
  termination_by cs => cs.length

end Json
end Gamebook
