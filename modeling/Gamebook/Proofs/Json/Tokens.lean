import Gamebook.Json.Token
import Gamebook.Json.Value

namespace Gamebook
namespace Json

/-!
# Written strings and numbers are cut back into tokens

A string ends at the first quotation mark that is not escaped, so it is read
back whatever follows it.  A number has no such mark: it is read back when what
follows cannot go on with it.
-/

/-! ## Strings -/

/-- A hexadecimal digit is worth what it was written for. -/
theorem hexValue?_hexDigit {n : Nat} (small : n < 16) :
    Text.hexValue? (hexDigit n) = some n := by
  revert n
  decide

/-- A code point that is written with four digits is read back. -/
theorem readCode_hexDigits {c : Char} (small : c.toNat < 0x20) (rest : List Char) :
    readCode ('0' :: '0' :: hexDigit (c.toNat / 16) :: hexDigit (c.toNat % 16) :: rest) =
      .ok (c, rest) := by
  have high : Text.hexValue? (hexDigit (c.toNat / 16)) = some (c.toNat / 16) :=
    hexValue?_hexDigit (by omega)
  have low : Text.hexValue? (hexDigit (c.toNat % 16)) = some (c.toNat % 16) :=
    hexValue?_hexDigit (by omega)
  have zero : Text.hexValue? '0' = some 0 := by decide
  have code : 4096 * 0 + 256 * 0 + 16 * (c.toNat / 16) + c.toNat % 16 = c.toNat := by omega
  have read : readHex ('0' :: '0' :: hexDigit (c.toNat / 16) :: hexDigit (c.toNat % 16) :: rest) =
      .ok (c.toNat, rest) := by
    simp only [readHex, zero, high, low, code]
  rw [readCode, read]
  simp only [if_neg (show ¬ (0xDC00 ≤ c.toNat ∧ c.toNat ≤ 0xDFFF) by omega),
    if_pos (show c.toNat < 0xD800 ∨ 0xDBFF < c.toNat by omega), Char.ofNat_toNat]

theorem readString_escape {cs : List Char} {c : Char} {rest : List Char}
    (escape : readEscape cs = .ok (c, rest)) :
    readString ('\\' :: cs) = (readString rest).map fun (more, after) => (c :: more, after) := by
  rw [readString]
  split
  · next fault refused => simp [escape] at refused
  · next d middle read =>
    rw [escape] at read
    cases read
    cases readString rest <;> rfl

/-- However a character is written, reading goes on behind it. -/
theorem readString_writtenChar (c : Char) {cs rest more : List Char}
    (read : readString cs = .ok (more, rest)) :
    readString (writtenChar c ++ cs) = .ok (c :: more, rest) := by
  have behind (escaped : List Char) (escape : readEscape (escaped ++ cs) = .ok (c, cs)) :
      readString ('\\' :: escaped ++ cs) = .ok (c :: more, rest) := by
    rw [List.cons_append, readString_escape escape, read]
    rfl
  unfold writtenChar
  split
  · next same => subst same; exact behind ['"'] rfl
  split
  · next same => subst same; exact behind ['\\'] rfl
  split
  · next same => subst same; exact behind ['n'] rfl
  split
  · next same => subst same; exact behind ['r'] rfl
  split
  · next same => subst same; exact behind ['t'] rfl
  split
  · next same => subst same; exact behind ['b'] rfl
  split
  · next same => subst same; exact behind ['f'] rfl
  split
  · next small => exact behind ['u', '0', '0', _, _] (readCode_hexDigits small cs)
  · next notQuote notBackslash _ _ _ _ _ notControl =>
    rw [List.singleton_append, readString]
    · rw [if_neg notControl, read]
      rfl
    · exact notQuote
    · exact notBackslash

/-- A string is read back from its text, whatever follows. -/
theorem readString_flatMap (cs rest : List Char) :
    readString (cs.flatMap writtenChar ++ '"' :: rest) = .ok (cs, rest) := by
  induction cs with
  | nil => rw [List.flatMap_nil, List.nil_append, readString]
  | cons c cs ih =>
    rw [List.flatMap_cons, List.append_assoc]
    exact readString_writtenChar c ih

/-! ## Numbers -/

/-- Says that a text cannot go on with a number that has no point and no
exponent. -/
def EndsNumber (rest : List Char) : Prop :=
  ∀ c ∈ rest.head?, c.isDigit = false ∧ c ≠ '.' ∧ c ≠ 'e' ∧ c ≠ 'E'

/-- The digits of a text stop where a number was written. -/
theorem span_digits (n : Nat) {rest : List Char} (ends : EndsNumber rest) :
    (Text.digits n ++ rest).takeWhile Char.isDigit = Text.digits n ∧
      (Text.digits n ++ rest).dropWhile Char.isDigit = rest := by
  have areDigits : ∀ c ∈ Text.digits n, c.isDigit = true := fun _ => Text.isDigit_of_mem_digits
  rw [List.takeWhile_append_of_pos areDigits, List.dropWhile_append_of_pos areDigits]
  cases rest with
  | nil => exact ⟨List.append_nil _, rfl⟩
  | cons c rest =>
    have noDigit : ¬ c.isDigit = true := by rw [(ends c rfl).1]; decide
    rw [List.takeWhile_cons_of_neg noDigit, List.dropWhile_cons_of_neg noDigit]
    exact ⟨List.append_nil _, rfl⟩

theorem readDigits_digits (n : Nat) {rest : List Char} (ends : EndsNumber rest) :
    readDigits (Text.digits n ++ rest) = .ok (Text.digits n, rest) := by
  have notEmpty : ¬ (Text.digits n).isEmpty = true := by
    rw [List.isEmpty_iff]
    exact Text.digits_ne_nil n
  have more : ¬ (Text.digits n ++ rest).isEmpty = true := by
    rw [List.isEmpty_iff, List.append_eq_nil_iff]
    exact fun both => Text.digits_ne_nil n both.1
  rw [readDigits, (span_digits n ends).1, (span_digits n ends).2, if_neg more, if_neg notEmpty]

/-- Only the number zero is written with a zero first. -/
theorem head?_digits {n : Nat} (positive : 0 < n) : (Text.digits n).head? ≠ some '0' := by
  induction n using Nat.strongRecOn with
  | ind n ih =>
    rw [Text.digits]
    by_cases small : n < 10
    · rw [Nat.toDigits_of_lt_base small, List.head?_cons, Ne, Option.some.injEq,
        Nat.digitChar_eq_zero]
      omega
    · rcases List.exists_cons_of_ne_nil (Text.digits_ne_nil (n / 10)) with ⟨c, cs, written⟩
      have leading := ih (n / 10) (by omega) (by omega)
      rw [written, List.head?_cons] at leading
      rw [Nat.toDigits_of_base_le (by decide) (Nat.le_of_not_lt small), ← Text.digits, written]
      exact leading

theorem leadingZero_digits (n : Nat) :
    ¬ (1 < (Text.digits n).length ∧ (Text.digits n).head? = some '0') := by
  rintro ⟨long, zero⟩
  rcases Nat.eq_zero_or_pos n with rfl | positive
  · exact absurd long (by decide)
  · exact head?_digits positive zero

/-- The parts of a number that was written. -/
theorem readUnsigned_digits (negative : Bool) (n : Nat) {rest : List Char}
    (ends : EndsNumber rest) :
    readUnsigned negative (Text.digits n ++ rest) =
      .ok (⟨negative, Text.digits n, [], false, []⟩, rest) := by
  rw [readUnsigned, readDigits_digits n ends]
  simp only [bind, Except.bind, if_neg (leadingZero_digits n)]
  cases rest with
  | nil => rfl
  | cons c rest =>
    rcases ends c rfl with ⟨_, noPoint, noExponent, noExponent'⟩
    have fraction : readFraction (c :: rest) = .ok ([], c :: rest) := by
      rw [readFraction]
      rintro after same
      exact noPoint (List.cons.inj same).1
    have exponent : readExponent (c :: rest) = .ok (false, [], c :: rest) :=
      if_neg (fun letter => letter.elim noExponent noExponent')
    simp only [fraction, exponent]

/-- All digits of a number that fits are absorbed. -/
theorem absorb_of_fits {cs : List Char} {value : Nat}
    (fits : Nat.ofDigitChars 10 cs value ≤ greatestWord) :
    absorb value cs = (Nat.ofDigitChars 10 cs value, cs.length) := by
  induction cs generalizing value with
  | nil => rfl
  | cons c cs ih =>
    rw [Nat.ofDigitChars_cons] at fits ⊢
    have small := Nat.le_trans (Text.le_ofDigitChars cs _) fits
    rw [absorb]
    simp only [if_neg (Nat.not_lt.mpr small), ih fits]
    rfl

theorem absorb_digits {n : Nat} (fits : n ≤ greatestWord) :
    absorb 0 (Text.digits n) = (n, (Text.digits n).length) := by
  have value : Nat.ofDigitChars 10 (Text.digits n) 0 = n := Nat.ofDigitChars_ten_toDigits
  rw [absorb_of_fits (by rw [value]; exact fits), value]

/-- The whole numbers that keep their value in a document. -/
def Whole (n : Int) : Prop := -(Number.twoTo 63 : Int) ≤ n ∧ n ≤ greatestWord

/-- A whole number is read back from its text when what follows does not go on
with it. -/
theorem readNumeral_numeral {n : Int} (whole : Whole n) {rest : List Char}
    (ends : EndsNumber rest) :
    readNumeral (Text.numeral n ++ rest) = .ok (.whole n, rest) := by
  have power : Number.twoTo 63 = 9223372036854775808 := by decide
  have least := whole.1
  have most := whole.2
  rw [power] at least
  rw [greatestWord] at most
  have absorbed : absorb 0 (Text.digits n.natAbs) = (n.natAbs, (Text.digits n.natAbs).length) :=
    absorb_digits (by rw [greatestWord]; omega)
  by_cases negative : n < 0
  · rw [Text.numeral, if_pos negative, readNumeral, List.cons_append, readNumber,
      readUnsigned_digits true _ ends]
    have value : (⟨true, Text.digits n.natAbs, [], false, []⟩ : WrittenNumber).value =
        .ok (.whole n) := by
      have back : -(n.natAbs : Int) = n := by omega
      rw [WrittenNumber.value, absorbed]
      simp only [Nat.sub_self]
      rw [if_neg (by decide), if_pos ⟨rfl, rfl, trivial, by omega, by rw [power]; omega⟩, back]
    simp only [bind, Except.bind, value]
  · rcases List.exists_cons_of_ne_nil (Text.digits_ne_nil n.natAbs) with ⟨c, cs, written⟩
    have digit :=
      Text.isDigit_of_mem_digits (written ▸ List.mem_cons_self : c ∈ Text.digits n.natAbs)
    have number : readNumber (Text.digits n.natAbs ++ rest) =
        readUnsigned false (Text.digits n.natAbs ++ rest) := by
      rw [written, List.cons_append, readNumber]
      rintro after same
      rw [(List.cons.inj same).1] at digit
      revert digit
      decide
    rw [Text.numeral, if_neg negative, readNumeral, number, readUnsigned_digits false _ ends]
    have value : (⟨false, Text.digits n.natAbs, [], false, []⟩ : WrittenNumber).value =
        .ok (.whole n) := by
      have back : (n.natAbs : Int) = n := by omega
      rw [WrittenNumber.value, absorbed]
      simp only [Nat.sub_self]
      rw [if_pos (by decide), back]
    simp only [bind, Except.bind, value]

/-! ## Tokens -/

theorem tokens_of_blank {c : Char} (blank : isBlank c = true) (rest : List Char) :
    tokens (c :: rest) = tokens rest := by
  rw [tokens, if_pos blank]

theorem tokens_of_readToken {c : Char} {cs rest : List Char} (token : Token)
    (notBlank : isBlank c = false) (read : readToken c cs = (token, some rest)) :
    tokens (c :: cs) = token :: tokens rest := by
  rw [tokens, if_neg (by rw [notBlank]; decide)]
  split
  · next token' rest' found =>
    rw [read] at found
    cases found
    rfl
  · next token' found =>
    rw [read] at found
    cases found

/-- Blanks between tokens leave no trace. -/
theorem tokens_lineBreak (layout : Layout) (depth : Nat) (rest : List Char) :
    tokens (layout.lineBreak depth ++ rest) = tokens rest := by
  have spaces (count : Nat) : tokens (List.replicate count ' ' ++ rest) = tokens rest := by
    induction count with
    | zero => rfl
    | succ count ih =>
      rw [List.replicate_succ, List.cons_append, tokens_of_blank rfl, ih]
  cases layout with
  | compact => rfl
  | indented => exact (tokens_of_blank rfl _).trans (spaces (2 * depth))

theorem tokens_colon (layout : Layout) (rest : List Char) :
    tokens (layout.colon ++ rest) = .colon :: tokens rest := by
  cases layout with
  | compact => exact tokens_of_readToken _ rfl rfl
  | indented =>
    rw [Layout.colon, List.cons_append, tokens_of_readToken .colon rfl rfl,
      List.cons_append, tokens_of_blank rfl]
    rfl

theorem tokens_comma (first : Bool) (rest : List Char) :
    tokens (comma first ++ rest) = (if first then [] else [.comma]) ++ tokens rest := by
  cases first with
  | true => rfl
  | false => exact tokens_of_readToken _ rfl rfl

theorem tokens_writtenString (cs rest : List Char) :
    tokens (writtenString cs ++ rest) = .string (String.ofList cs) :: tokens rest := by
  have read : readToken '"' (cs.flatMap writtenChar ++ '"' :: rest) =
      (.string (String.ofList cs), some rest) := by
    simp only [readToken, readString_flatMap]
  rw [writtenString, List.cons_append, List.cons_append, List.append_assoc]
  exact tokens_of_readToken _ rfl read

/-- A digit or a minus sign starts a number. -/
theorem readToken_of_startsNumber {c : Char} (starts : c = '-' ∨ ('0' ≤ c ∧ c ≤ '9'))
    {cs rest : List Char} {value : Numeral} (read : readNumeral (c :: cs) = .ok (value, rest)) :
    readToken c cs = (.number value, some rest) := by
  have digit : (c = '-' || c.isDigit) = true := by
    rw [Bool.or_eq_true, decide_eq_true_eq, Text.isDigit_iff]
    exact starts
  unfold readToken
  split
  case h_11 => rw [if_pos digit, read]
  all_goals exact absurd starts (by decide)

theorem tokens_numeral {n : Int} (whole : Whole n) {rest : List Char} (ends : EndsNumber rest) :
    tokens (Text.numeral n ++ rest) = .number (.whole n) :: tokens rest := by
  have read := readNumeral_numeral whole ends
  cases written : Text.numeral n with
  | nil =>
    rw [Text.numeral] at written
    split at written
    · cases written
    · exact absurd written (Text.digits_ne_nil _)
  | cons c cs =>
    have starts :=
      Text.sign_or_digit_of_mem_numeral (written ▸ List.mem_cons_self : c ∈ Text.numeral n)
    rw [written, List.cons_append] at read
    have notBlank : isBlank c = false := by
      rcases starts with rfl | ⟨low, high⟩
      · decide
      · have low : 48 ≤ c.toNat := low
        simp only [isBlank, Bool.or_eq_false_iff, decide_eq_false_iff_not]
        refine ⟨⟨⟨?_, ?_⟩, ?_⟩, ?_⟩ <;> (rintro rfl; revert low; decide)
    exact tokens_of_readToken _ notBlank (readToken_of_startsNumber starts read)

end Json
end Gamebook
