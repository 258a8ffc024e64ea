import Gamebook.Text.Blank

namespace Gamebook
namespace Text

/-!
# Whole numbers as decimal text

Writing uses the fewest digits.  Reading takes an optional sign and digits,
and refuses a value outside the stated range.  Characters are read from the
left, so the first character that is wrong, or the digit that leaves the
range, decides which refusal is given.
-/

/-- Why a text is not a number of the wanted range. -/
inductive NumeralError
  | empty
  | invalidDigit
  | tooLarge
  | tooSmall
  deriving DecidableEq, Repr

/-- The wording of a refusal. -/
def NumeralError.message : NumeralError → String
  | .empty => "cannot parse integer from empty string"
  | .invalidDigit => "invalid digit found in string"
  | .tooLarge => "number too large to fit in target type"
  | .tooSmall => "number too small to fit in target type"

/-- The values that a numeral may have: those from `least` to `most`. -/
structure NumeralRange where
  least : Int
  most : Int
  deriving DecidableEq, Repr

/-- Signed 32-bit values. -/
def NumeralRange.int32 : NumeralRange := ⟨-2147483648, 2147483647⟩

/-- Signed 64-bit values. -/
def NumeralRange.int64 : NumeralRange := ⟨-9223372036854775808, 9223372036854775807⟩

/-- Unsigned 64-bit values. -/
def NumeralRange.word64 : NumeralRange := ⟨0, 18446744073709551615⟩

/-- The value itself when it lies in the range, and otherwise the side on which
it falls out. -/
def NumeralRange.fit (range : NumeralRange) (value : Int) : Except NumeralError Int :=
  if value < range.least then .error .tooSmall
  else if range.most < value then .error .tooLarge
  else .ok value

def digitValue? (c : Char) : Option Nat :=
  if '0' ≤ c ∧ c ≤ '9' then some (c.toNat - '0'.toNat) else none

/-- The value of a hexadecimal digit in either case. -/
def hexValue? (c : Char) : Option Nat :=
  if '0' ≤ c ∧ c ≤ '9' then some (c.toNat - '0'.toNat)
  else if 'a' ≤ c ∧ c ≤ 'f' then some (c.toNat - 'a'.toNat + 10)
  else if 'A' ≤ c ∧ c ≤ 'F' then some (c.toNat - 'A'.toNat + 10)
  else none

/-- The decimal digits of a number, the most significant first. -/
def digits (n : Nat) : List Char :=
  Nat.toDigits 10 n

/-- Decimal text of a number, with a minus sign when it is negative. -/
def numeral (n : Int) : List Char :=
  if n < 0 then '-' :: digits n.natAbs else digits n.natAbs

/-- Decimal text of a number, as a finished piece of a message. -/
def decimal (n : Int) : String :=
  String.ofList (numeral n)

/-- Continue a magnitude with more digits, up to a limit. -/
def readMagnitude (limit : Nat) (beyond : NumeralError) : Nat → List Char → Except NumeralError Nat
  | value, [] => .ok value
  | value, c :: rest =>
    match digitValue? c with
    | none => .error .invalidDigit
    | some d =>
      let next := 10 * value + d
      if limit < next then .error beyond else readMagnitude limit beyond next rest

/-- Read a number of the range from its whole text.  A plus sign is allowed; a
minus sign only where the range has negative values. -/
def readNumeral (range : NumeralRange) : List Char → Except NumeralError Int
  | [] => .error .empty
  | ['+'] => .error .invalidDigit
  | ['-'] => .error .invalidDigit
  | '+' :: rest => (readMagnitude range.most.toNat .tooLarge 0 rest).map Int.ofNat
  | '-' :: rest =>
    if range.least < 0 then
      (readMagnitude (-range.least).toNat .tooSmall 0 rest).map fun n => -Int.ofNat n
    else .error .invalidDigit
  | rest => (readMagnitude range.most.toNat .tooLarge 0 rest).map Int.ofNat

/-! ## Values in a range -/

theorem NumeralRange.fit_eq_ok_iff {range : NumeralRange} {value fitted : Int} :
    range.fit value = .ok fitted ↔ value = fitted ∧ range.least ≤ value ∧ value ≤ range.most := by
  rw [NumeralRange.fit]
  by_cases small : value < range.least
  · simp only [if_pos small, reduceCtorEq, false_iff]
    omega
  · by_cases large : range.most < value
    · simp only [if_neg small, if_pos large, reduceCtorEq, false_iff]
      omega
    · simp only [if_neg small, if_neg large, Except.ok.injEq]
      omega

/-! ## Digits -/

theorem digits_ne_nil (n : Nat) : digits n ≠ [] :=
  Nat.toDigits_ne_nil

theorem isDigit_of_mem_digits {n : Nat} {c : Char} (digit : c ∈ digits n) :
    c.isDigit = true :=
  Nat.isDigit_of_mem_toDigits (by decide) (by decide) digit

theorem isDigit_iff {c : Char} : c.isDigit = true ↔ '0' ≤ c ∧ c ≤ '9' := by
  rw [Char.isDigit, Bool.and_eq_true, decide_eq_true_eq, decide_eq_true_eq]
  rfl

theorem digitValue?_of_mem_digits {n : Nat} {c : Char} (digit : c ∈ digits n) :
    digitValue? c = some (c.toNat - '0'.toNat) :=
  if_pos (isDigit_iff.mp (isDigit_of_mem_digits digit))

/-- A number is written with digits and a minus sign. -/
theorem sign_or_digit_of_mem_numeral {n : Int} {c : Char} (member : c ∈ numeral n) :
    c = '-' ∨ ('0' ≤ c ∧ c ≤ '9') := by
  rw [numeral] at member
  split at member
  · exact (List.mem_cons.mp member).imp id fun digit =>
      isDigit_iff.mp (isDigit_of_mem_digits digit)
  · exact .inr (isDigit_iff.mp (isDigit_of_mem_digits member))

theorem isBlankChar_of_mem_numeral {n : Int} {c : Char} (member : c ∈ numeral n) :
    isBlankChar c = false := by
  rcases sign_or_digit_of_mem_numeral member with rfl | ⟨low, high⟩
  · decide
  · have low : 48 ≤ c.toNat := low
    have high : c.toNat ≤ 57 := high
    simp [isBlankChar]
    omega

theorem toList_decimal (n : Int) : (decimal n).toList = numeral n :=
  String.toList_ofList

theorem trim_numeral (n : Int) : trim (numeral n) = numeral n := by
  rw [trim_eq_self_iff, trimStart_eq_self_iff, trimEnd_eq_self_iff]
  exact ⟨fun c head => isBlankChar_of_mem_numeral (List.mem_of_head? head),
    fun c final => isBlankChar_of_mem_numeral (List.mem_of_getLast? final)⟩

/-! ## Reading a number that was written -/

theorem le_ofDigitChars (cs : List Char) (value : Nat) :
    value ≤ Nat.ofDigitChars 10 cs value := by
  rw [Nat.ofDigitChars_eq_ofDigitChars_zero]
  have positive : 1 ≤ 10 ^ cs.length := Nat.one_le_pow _ _ (by decide)
  calc value = 1 * value := (Nat.one_mul value).symm
    _ ≤ 10 ^ cs.length * value := Nat.mul_le_mul_right value positive
    _ ≤ _ := Nat.le_add_right _ _

/-- Digits whose whole value is within the limit are read to the end. -/
theorem readMagnitude_of_digits {limit : Nat} {beyond : NumeralError} {cs : List Char}
    (areDigits : ∀ c ∈ cs, digitValue? c = some (c.toNat - '0'.toNat)) {value : Nat}
    (within : Nat.ofDigitChars 10 cs value ≤ limit) :
    readMagnitude limit beyond value cs = .ok (Nat.ofDigitChars 10 cs value) := by
  induction cs generalizing value with
  | nil => rfl
  | cons c cs ih =>
    rw [Nat.ofDigitChars_cons] at within ⊢
    have small := Nat.le_trans (le_ofDigitChars cs _) within
    rw [readMagnitude, areDigits c List.mem_cons_self]
    simp only [if_neg (Nat.not_lt.mpr small)]
    exact ih (fun d member => areDigits d (List.mem_cons_of_mem c member)) within

theorem readMagnitude_digits {limit n : Nat} (beyond : NumeralError) (within : n ≤ limit) :
    readMagnitude limit beyond 0 (digits n) = .ok n := by
  have value : Nat.ofDigitChars 10 (digits n) 0 = n := Nat.ofDigitChars_ten_toDigits
  have read : readMagnitude limit beyond 0 (digits n) = _ :=
    readMagnitude_of_digits (fun c member => digitValue?_of_mem_digits member)
      (by rw [value]; exact within)
  rw [read, value]

/-- A first character that is no sign is a digit to be read. -/
theorem readNumeral_unsigned (range : NumeralRange) {c : Char} (cs : List Char)
    (noPlus : c ≠ '+') (noMinus : c ≠ '-') :
    readNumeral range (c :: cs) =
      (readMagnitude range.most.toNat .tooLarge 0 (c :: cs)).map Int.ofNat := by
  rw [readNumeral]
  all_goals simp_all

/-- A number of the range is read back from its decimal text. -/
theorem readNumeral_numeral {range : NumeralRange} {n : Int} (least : range.least ≤ n)
    (most : n ≤ range.most) : readNumeral range (numeral n) = .ok n := by
  by_cases negative : n < 0
  · have magnitude : n.natAbs ≤ (-range.least).toNat := by omega
    rcases List.exists_cons_of_ne_nil (digits_ne_nil n.natAbs) with ⟨c, cs, written⟩
    have read := readMagnitude_digits .tooSmall magnitude
    have back : -Int.ofNat n.natAbs = n := by rw [Int.ofNat_eq_natCast]; omega
    rw [numeral, if_pos negative, written, readNumeral, if_pos (by omega), ← written, read]
    · exact congrArg Except.ok back
    · simp
  · have magnitude : n.natAbs ≤ range.most.toNat := by omega
    rcases List.exists_cons_of_ne_nil (digits_ne_nil n.natAbs) with ⟨c, cs, written⟩
    have digit := digitValue?_of_mem_digits (written ▸ List.mem_cons_self : c ∈ digits n.natAbs)
    have noSign : c ≠ '+' ∧ c ≠ '-' := by
      constructor <;> (rintro rfl; revert digit; decide)
    have back : Int.ofNat n.natAbs = n := by rw [Int.ofNat_eq_natCast]; omega
    rw [numeral, if_neg negative, written, readNumeral_unsigned range cs noSign.1 noSign.2,
      ← written, readMagnitude_digits .tooLarge magnitude]
    exact congrArg Except.ok back

/-- Decimal text has no blanks to be trimmed before it is read back. -/
theorem readNumeral_trim_decimal {range : NumeralRange} {n : Int} (least : range.least ≤ n)
    (most : n ≤ range.most) : readNumeral range (trim (decimal n).toList) = .ok n := by
  rw [toList_decimal, trim_numeral]
  exact readNumeral_numeral least most

end Text
end Gamebook
