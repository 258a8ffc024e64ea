import Gamebook.Json.Fault
import Gamebook.Number.Binary64
import Gamebook.Text.Numeral

namespace Gamebook
namespace Json

/-!
# Numbers of a document

A number without a point and without an exponent is whole when it fits 64 bits,
as a signed number if it is negative and as an unsigned one if it is not.
Every other number, and a zero with a minus sign, is a binary64 number.  Only
as many digits count as fit an unsigned 64-bit significand.
-/

/-- The value of a number. -/
inductive Numeral
  | whole (value : Int)
  | real (negative : Bool) (magnitude : Number.Binary64)
  deriving DecidableEq, Repr

/-- The parts of a number as they are written.  An exponent that is not written
has no digits. -/
structure WrittenNumber where
  negative : Bool
  whole : List Char
  fraction : List Char
  down : Bool
  exponent : List Char
  deriving DecidableEq, Repr

/-! ## Reading the parts -/

/-- Read one digit or more, and return the rest. -/
def readDigits (cs : List Char) : Except Fault (List Char × List Char) :=
  if cs.isEmpty then .error .endInValue
  else if (cs.takeWhile Char.isDigit).isEmpty then .error .invalidNumber
  else .ok (cs.takeWhile Char.isDigit, cs.dropWhile Char.isDigit)

/-- Read the digits after a point, if a point comes first. -/
def readFraction : List Char → Except Fault (List Char × List Char)
  | '.' :: cs => readDigits cs
  | cs => .ok ([], cs)

/-- Read an optional sign and return whether it is a minus. -/
def readSign : List Char → Bool × List Char
  | '+' :: cs => (false, cs)
  | '-' :: cs => (true, cs)
  | cs => (false, cs)

/-- Read the digits after the letter of an exponent, if that letter comes
first. -/
def readExponent (cs : List Char) : Except Fault (Bool × List Char × List Char) :=
  match cs with
  | [] => .ok (false, [], [])
  | c :: rest =>
    if c = 'e' ∨ c = 'E' then do
      let (written, after) ← readDigits (readSign rest).2
      .ok ((readSign rest).1, written, after)
    else .ok (false, [], cs)

/-- Read a number after its sign, and return the rest. -/
def readUnsigned (negative : Bool) (cs : List Char) : Except Fault (WrittenNumber × List Char) := do
  let (whole, cs) ← readDigits cs
  if 1 < whole.length ∧ whole.head? = some '0' then .error .invalidNumber
  else do
    let (fraction, cs) ← readFraction cs
    let (down, exponent, cs) ← readExponent cs
    .ok ({ negative, whole, fraction, down, exponent }, cs)

/-- Read a number that starts with a digit or a minus sign, and return the rest. -/
def readNumber : List Char → Except Fault (WrittenNumber × List Char)
  | '-' :: cs => readUnsigned true cs
  | cs => readUnsigned false cs

/-! ## The value -/

def greatestWord : Nat := 18446744073709551615

def greatestExponent : Nat := 2147483647

/-- The number that digits write. -/
def digitsValue (written : List Char) : Nat :=
  written.foldl (fun n c => 10 * n + (c.toNat - '0'.toNat)) 0

/-- Append digits to a significand as long as it fits, and count those that
were appended. -/
def absorb : Nat → List Char → Nat × Nat
  | significand, [] => (significand, 0)
  | significand, c :: rest =>
    let next := 10 * significand + (c.toNat - '0'.toNat)
    if greatestWord < next then (significand, 0)
    else
      let (final, count) := absorb next rest
      (final, count + 1)

/-- The value of a significand and a power of ten, unless it is too large. -/
def realOf (negative : Bool) (significand : Nat) (exponent : Int) : Except Fault Numeral :=
  match Number.Binary64.ofDecimal? significand exponent with
  | some magnitude => .ok (.real negative magnitude)
  | none => .error .numberOutOfRange

/-- The value of a number.  Digits of the whole part that do not fit raise the
exponent, and digits of the fraction that do not fit are dropped. -/
def WrittenNumber.value (number : WrittenNumber) : Except Fault Numeral :=
  let (start, kept) := absorb 0 number.whole
  let dropped := number.whole.length - kept
  if number.fraction.isEmpty ∧ number.exponent.isEmpty ∧ dropped = 0 ∧ !number.negative then
    .ok (.whole start)
  else if number.fraction.isEmpty ∧ number.exponent.isEmpty ∧ dropped = 0 ∧
      0 < start ∧ start ≤ Number.twoTo 63 then
    .ok (.whole (-start))
  else
    let (significand, places) := absorb start number.fraction
    let size := digitsValue number.exponent
    if greatestExponent < size then
      if significand ≠ 0 ∧ !number.down then .error .numberOutOfRange
      else .ok (.real number.negative Number.Binary64.zero)
    else
      let exponent : Int := if number.down then -size else size
      realOf number.negative significand (dropped - places + exponent)

/-- Read the value of a number that starts with a digit or a minus sign, and
return the rest. -/
def readNumeral (cs : List Char) : Except Fault (Numeral × List Char) := do
  let (number, rest) ← readNumber cs
  .ok (← number.value, rest)

/-! ## The rest is shorter -/

theorem readDigits_length {cs written rest : List Char}
    (read : readDigits cs = .ok (written, rest)) : rest.length < cs.length := by
  unfold readDigits at read
  cases cs with
  | nil => cases read
  | cons c cs =>
    have drop := (List.dropWhile_sublist Char.isDigit (l := cs)).length_le
    by_cases digit : c.isDigit = true
    · simp only [List.isEmpty_cons, List.takeWhile_cons, List.dropWhile_cons, digit] at read
      cases read
      exact Nat.lt_succ_of_le drop
    · simp only [List.isEmpty_cons, List.takeWhile_cons, digit] at read
      cases read

theorem readFraction_length {cs written rest : List Char}
    (read : readFraction cs = .ok (written, rest)) : rest.length ≤ cs.length := by
  unfold readFraction at read
  split at read
  · exact Nat.le_succ_of_le (Nat.le_of_lt (readDigits_length read))
  · cases read
    exact Nat.le_refl _

theorem readSign_length (cs : List Char) : (readSign cs).2.length ≤ cs.length := by
  unfold readSign
  split <;> simp

theorem readExponent_length {cs written rest : List Char} {down : Bool}
    (read : readExponent cs = .ok (down, written, rest)) : rest.length ≤ cs.length := by
  unfold readExponent at read
  split at read
  · cases read
    exact Nat.le_refl _
  · rename_i c after
    split at read
    · cases power : readDigits (readSign after).2 with
      | error fault => simp [power, bind, Except.bind] at read
      | ok pair =>
        simp only [power, bind, Except.bind] at read
        cases read
        have shorter := readDigits_length power
        have sign := readSign_length after
        simp only [List.length_cons]
        omega
    · cases read
      exact Nat.le_refl _

theorem readUnsigned_length {negative : Bool} {cs rest : List Char} {number : WrittenNumber}
    (read : readUnsigned negative cs = .ok (number, rest)) : rest.length < cs.length := by
  unfold readUnsigned at read
  cases digits : readDigits cs with
  | error fault => simp [digits, bind, Except.bind] at read
  | ok pair =>
    simp only [digits, bind, Except.bind] at read
    split at read
    · cases read
    · cases fraction : readFraction pair.2 with
      | error fault => simp [fraction] at read
      | ok part =>
        simp only [fraction] at read
        cases power : readExponent part.2 with
        | error fault => simp [power] at read
        | ok last =>
          simp only [power] at read
          cases read
          have one := readDigits_length digits
          have two := readFraction_length fraction
          have three := readExponent_length power
          omega

theorem readNumeral_length {c : Char} {cs rest : List Char} {value : Numeral}
    (read : readNumeral (c :: cs) = .ok (value, rest)) : rest.length ≤ cs.length := by
  unfold readNumeral at read
  cases number : readNumber (c :: cs) with
  | error fault => simp [number, bind, Except.bind] at read
  | ok pair =>
    simp only [number, bind, Except.bind] at read
    cases result : pair.1.value with
    | error fault => simp [result] at read
    | ok value =>
      simp only [result] at read
      cases read
      unfold readNumber at number
      split at number
      · next same =>
        cases same
        exact Nat.le_of_lt (readUnsigned_length number)
      · exact Nat.le_of_lt_succ (readUnsigned_length number)

end Json
end Gamebook
