import Gamebook.Number.Power

namespace Gamebook
namespace Number

/-!
# Binary64 magnitudes

A number of a document that is not whole is held as the nearest value with a
53-bit significand.  Only magnitudes are needed; the sign is kept beside them.
All arithmetic is exact on natural numbers and rounds once at its end, to the
nearest value and on a tie to the one with the even significand.
-/

/-- The value of `significand` times two to the power `exponent`. -/
structure Binary64 where
  significand : Nat
  exponent : Int
  deriving DecidableEq, Repr

namespace Binary64

def zero : Binary64 := ⟨0, -1074⟩

/-- Numerator and denominator of the value. -/
def ratio (x : Binary64) : Nat × Nat :=
  if 0 ≤ x.exponent then (x.significand * twoTo x.exponent.toNat, 1)
  else (x.significand, twoTo (-x.exponent).toNat)

/-- The quotient rounded to the nearest whole number, a tie going to the even
one. -/
def roundDiv (numerator denominator : Nat) : Nat :=
  let quotient := numerator / denominator
  let rest := 2 * (numerator % denominator)
  if rest < denominator ∨ (rest = denominator ∧ quotient % 2 = 0) then quotient
  else quotient + 1

/-- The quotient of `numerator` and `denominator` over two to the power
`exponent`, as a fraction. -/
def scaled (numerator denominator : Nat) (exponent : Int) : Nat × Nat :=
  if 0 ≤ exponent then (numerator, denominator * twoTo exponent.toNat)
  else (numerator * twoTo (-exponent).toNat, denominator)

/-- The nearest value to a positive fraction, or nothing when it is as large as
two to the power 1024. -/
def nearest? (numerator denominator : Nat) : Option Binary64 :=
  if numerator = 0 then some zero
  else
    let magnitude : Int := (Nat.log2 numerator : Int) - (Nat.log2 denominator : Int)
    let low := magnitude - 53
    let (n, d) := scaled numerator denominator low
    let exponent := max (if twoTo 53 ≤ n / d then low + 1 else low) (-1074)
    let (n, d) := scaled numerator denominator exponent
    let significand := roundDiv n d
    if 971 < exponent ∨ (exponent = 971 ∧ twoTo 53 ≤ significand) then none
    else if significand = twoTo 53 then some ⟨twoTo 52, exponent + 1⟩
    else some ⟨significand, exponent⟩

/-- The nearest value to a whole number below two to the power 64. -/
def ofNat (n : Nat) : Binary64 := (nearest? n 1).getD zero

/-- The nearest value to a power of ten of at most 308. -/
def powerOfTen (n : Nat) : Binary64 := (nearest? (tenTo n) 1).getD zero

/-- The product, rounded. -/
def mul? (x y : Binary64) : Option Binary64 :=
  let (n, d) := x.ratio
  let (n', d') := y.ratio
  nearest? (n * n') (d * d')

/-- The quotient, rounded.  The divisor is not zero. -/
def div? (x y : Binary64) : Option Binary64 :=
  let (n, d) := x.ratio
  let (n', d') := y.ratio
  nearest? (n * d') (d * n')

/-- Divide by powers of ten of at most 308 until the whole exponent is used up.
A value that has become zero stays zero, so few steps are needed. -/
def scaleDown : Nat → Binary64 → Nat → Option Binary64
  | 0, x, _ => some x
  | steps + 1, x, exponent =>
    if exponent ≤ 308 then x.div? (powerOfTen exponent)
    else if x.significand = 0 then some zero
    else (x.div? (powerOfTen 308)).bind fun x => scaleDown steps x (exponent - 308)

/-- The value of a significand below two to the power 64 times a power of ten.
It is rounded at each step, and there is none when it is too large. -/
def ofDecimal? (significand : Nat) (exponent : Int) : Option Binary64 :=
  let x := ofNat significand
  if exponent < 0 then scaleDown 4 x (-exponent).toNat
  else if exponent ≤ 308 then x.mul? (powerOfTen exponent.toNat)
  else if significand = 0 then some zero
  else none

end Binary64

end Number
end Gamebook
