import Gamebook.Text.Size
import Gamebook.Unicode.Width

namespace Gamebook
namespace Terminal

/-!
# Escape sequences

A text may hold sequences that a terminal does not show: control sequences,
which end with a letter or another mark, and operating system commands, which
end with a bell or a string terminator.
-/

/-- Where a character stands with respect to escape sequences. -/
inductive Escape
  | outside
  | opened
  | control
  | command (afterEscape : Bool)
  deriving DecidableEq, Repr

/-- The character that opens an escape sequence. -/
def escapeChar : Char := '\x1b'

/-- Where the character after this one stands, and whether this one is shown. -/
def Escape.step (state : Escape) (c : Char) : Escape × Bool :=
  match state with
  | .outside => if c = escapeChar then (.opened, false) else (.outside, true)
  | .opened =>
    if c = '[' then (.control, false)
    else if c = ']' then (.command false, false)
    else (.outside, false)
  | .control => (if 0x40 ≤ c.toNat ∧ c.toNat ≤ 0x7E then .outside else .control, false)
  | .command afterEscape =>
    if c = '\x07' || (c = '\\' && afterEscape) then (.outside, false)
    else (.command (c = escapeChar), false)

/-- The characters of a text, each with whether it is shown. -/
def marked (state : Escape) : List Char → List (Char × Bool)
  | [] => []
  | c :: cs =>
    let (state, shown) := state.step c
    (c, shown) :: marked state cs

/-- The characters of a text that are shown. -/
def shown (cs : List Char) : List Char :=
  ((marked .outside cs).filter (·.2)).map (·.1)

/-- The number of columns that a text takes. -/
def columns (cs : List Char) : Nat :=
  Text.total Unicode.columns (shown cs)

end Terminal
end Gamebook
