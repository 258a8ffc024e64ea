import Gamebook.Terminal.Fragment

namespace Gamebook
namespace Terminal

/-!
# Filling lines

A text is divided into lines so that the whole division is as good as it can be.
Every line has a cost, which is high where the line is too wide and otherwise
grows with the square of the room that is left; on the last line, room does not
count.  Among equally good divisions, the one with the earlier last break is
taken.
-/

def lineCost : Nat := 1000

/-- The cost of a column beyond the width. -/
def overflowCost : Nat := 2500

/-- The cost of a last line that is a single short fragment. -/
def shortLastCost : Nat := 25

/-- A last line is short when it takes less than this fraction of the width. -/
def shortLastFraction : Nat := 4

/-- The cost of a line of the given columns.  `last` tells whether it ends the
text, and `single` whether it is a single fragment. -/
def costOfLine (most columns : Nat) (last single : Bool) : Nat :=
  lineCost +
    if most < columns then (columns - most) * overflowCost
    else if !last then (most - columns) * (most - columns)
    else if single && shortLastFraction * columns < most then shortLastCost
    else 0

/-- A way to divide the fragments before a place: the number of fragments, the
columns they take with all their spaces, the cost, and the numbers of fragments
before each line, the last line first. -/
structure Division where
  count : Nat
  columns : Nat
  cost : Nat
  starts : List Nat
  deriving DecidableEq, Repr

/-- The division that begins a new line after `before`, up to a fragment that ends
at the given columns. -/
def Division.extend (most : Nat) (last : Bool) (count ending columns : Nat) (before : Division) :
    Division where
  count := count
  columns := columns
  cost := before.cost +
    costOfLine most (ending - before.columns) last (before.count + 1 = count)
  starts := before.count :: before.starts

/-- The cheapest of the divisions; of equally cheap ones, the first. -/
def cheapest : Division → List Division → Division
  | best, [] => best
  | best, division :: more =>
    cheapest (if division.cost < best.cost then division else best) more

/-- Extend the best divisions of ever more fragments.  `done` holds them, that of
the most fragments first. -/
def bestDivision (most : Nat) (done : List Division) (newest : Division) :
    List Fragment → Division
  | [] => newest
  | fragment :: more =>
    let ending := newest.columns + fragment.width
    let columns := ending + Terminal.columns fragment.spaces
    let extended := (newest :: done).reverse.map
      (Division.extend most more.isEmpty (newest.count + 1) ending columns)
    match extended with
    | [] => newest
    | first :: others => bestDivision most (newest :: done) (cheapest first others) more

/-- Cut the fragments into lines before the given numbers of them, the greatest
first. -/
def cutAt (lines : List (List Fragment)) : List Fragment → List Nat → List (List Fragment)
  | [], [] => lines
  | fragments, [] => fragments :: lines
  | fragments, start :: starts =>
    cutAt (fragments.drop start :: lines) (fragments.take start) starts

/-- The text of a line.  The spaces at its end are left out. -/
def lineText : List Fragment → List Char
  | [] => []
  | [fragment] => fragment.text
  | fragment :: more => fragment.text ++ fragment.spaces ++ lineText more

/-- Divide a line of text into lines of the given width.  A text of fewer bytes is
left whole. -/
def fill (width : Nat) (cs : List Char) : List (List Char) :=
  if Text.byteLength cs < width then [(cs.reverse.dropWhile (· = ' ')).reverse]
  else
    let parts := fragments width cs
    let best := bestDivision (max width 1) [] ⟨0, 0, 0, []⟩ parts
    (cutAt [] parts best.starts).map lineText

end Terminal
end Gamebook
