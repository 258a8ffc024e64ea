import Gamebook.Text.Numeral

namespace Gamebook
namespace Unicode

/-!
# Sets of code points

A property of Unicode is held as ascending closed ranges of code points.  The
tables are written as text: ranges in hexadecimal, separated by blanks, a
single code point standing for the range that holds it alone.
-/

/-- A set of code points, given by ascending closed ranges. -/
structure CodePoints where
  ranges : List (Nat × Nat)
  deriving Repr

/-- Read written ranges.  `low` is the start of the range being read once its
dash has been passed, and `value` the number being read. -/
def readRanges (low : Option Nat) (value : Nat) : List Char → List (Nat × Nat)
  | [] => [(low.getD value, value)]
  | c :: rest =>
    match Text.hexValue? c with
    | some digit => readRanges low (16 * value + digit) rest
    | none =>
      if c = '-' then readRanges (some value) 0 rest
      else (low.getD value, value) :: readRanges none 0 rest

/-- The set that the lines of a table write. -/
def CodePoints.ofTable (table : List String) : CodePoints :=
  ⟨table.flatMap fun line => readRanges none 0 line.toList⟩

/-- Says whether the character belongs to the set. -/
def CodePoints.contains (set : CodePoints) (c : Char) : Bool :=
  set.ranges.any fun (low, high) => low ≤ c.toNat && c.toNat ≤ high

example : (CodePoints.ofTable ["41-5A 7F", "C0"]).ranges =
    [(0x41, 0x5A), (0x7F, 0x7F), (0xC0, 0xC0)] := by
  decide

end Unicode
end Gamebook
