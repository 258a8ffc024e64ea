import Gamebook.Number.Binary64
import Gamebook.Text.Numeral

namespace Gamebook
namespace Number

/-!
# The shortest decimal text of a binary64 number

The text has the fewest digits that still tell the number from its neighbours,
and of those the digits nearest to it.  It is positional when the number is at
least a hundred-thousandth and below ten to the power 16, and otherwise it has
an exponent, which always shows its sign.
-/

namespace Binary64

/-- The fractions between which every decimal reads back as the given number,
over the denominator that is returned last.  The gap to the next smaller number
is half as wide below a power of two. -/
def interval (x : Binary64) : Nat × Nat × Nat × Nat :=
  let (n, d) := x.ratio
  let narrow := x.significand = twoTo 52 ∧ -1074 < x.exponent
  let (unit, _) := if 0 ≤ x.exponent then (twoTo x.exponent.toNat, 1) else (1, 1)
  (4 * n - (if narrow then unit else 2 * unit), 4 * n, 4 * n + 2 * unit, 4 * d)

/-- Search upwards for the least power of ten above the fraction, from a guess
that is not above it. -/
def decimalMagnitude (n d : Nat) : Nat → Int → Int
  | 0, guess => guess
  | steps + 1, guess =>
    let above := if 0 ≤ guess then n < d * tenTo guess.toNat else n * tenTo (-guess).toNat < d
    if above then guess else decimalMagnitude n d steps (guess + 1)

/-- The candidate with its distance from the number, when it lies in the
interval. -/
def candidate? (low value high : Nat) (closed : Bool) (scaledUnit : Nat) (digits : Nat) :
    Option (Nat × Nat) :=
  let point := digits * scaledUnit
  let inside := if closed then low ≤ point && point ≤ high else low < point && point < high
  if inside then some (digits, if point ≤ value then value - point else point - value) else none

/-- Try ever finer decimal grids, from one digit on.  The first grid with a
point in the interval gives the digits and the power of ten of the last digit. -/
def firstGrid (low value high d : Nat) (closed : Bool) (magnitude : Int) :
    Nat → Nat → Option (Nat × Int)
  | 0, _ => none
  | steps + 1, count =>
    let place : Int := magnitude - count
    let (scale, unit) :=
      if 0 ≤ place then (1, d * tenTo place.toNat) else (tenTo (-place).toNat, d)
    let below := value * scale / unit
    let pointAt? := candidate? (low * scale) (value * scale) (high * scale) closed unit
    match pointAt? below, pointAt? (below + 1) with
    | some (a, near), some (b, far) => some (if near ≤ far then a else b, place)
    | some (a, _), none => some (a, place)
    | none, some (b, _) => some (b, place)
    | none, none => firstGrid low value high d closed magnitude steps (count + 1)

/-- The shortest digits of a number that is not zero, without zeros at the end,
and the power of ten of the first of them. -/
def shortest (x : Binary64) : List Char × Int :=
  let (low, value, high, d) := x.interval
  let guess : Int := ((Nat.log2 value : Int) - (Nat.log2 d : Int) - 1) * 30103 / 100000 - 1
  let magnitude := decimalMagnitude value d 6 guess
  let (number, place) :=
    (firstGrid low value high d (x.significand % 2 = 0) magnitude 18 1).getD (0, 0)
  let written := Text.digits number
  let kept := (written.reverse.dropWhile (· = '0')).reverse
  (kept, place + written.length - 1)

/-- The digits with a point after the first, if there are several. -/
def scientific : List Char → List Char
  | [] => ['0']
  | [digit] => [digit]
  | digit :: more => digit :: '.' :: more

/-- Decimal text of a magnitude. -/
def text (x : Binary64) : List Char :=
  if x.significand = 0 then ['0', '.', '0']
  else
    let (written, exponent) := x.shortest
    if -5 ≤ exponent ∧ exponent ≤ 15 then
      if exponent < 0 then
        '0' :: '.' :: List.replicate (-exponent - 1).toNat '0' ++ written
      else
        let whole := exponent.toNat + 1
        if written.length ≤ whole then
          written ++ List.replicate (whole - written.length) '0' ++ ['.', '0']
        else written.take whole ++ '.' :: written.drop whole
    else
      scientific written ++ 'e' :: (if exponent < 0 then '-' else '+') ::
        Text.digits exponent.natAbs

end Binary64

end Number
end Gamebook
