import Gamebook.Script.Written
import Gamebook.Text.Blank

namespace Gamebook
namespace Script

/-!
# Lines and blocks of a script

The lines behind a story's title fall into blocks.  A block starts with the
first line that is not blank, whatever that line is, and it goes on to the next
blank line or header.
-/

/-- A line with its number. -/
structure Line where
  number : Nat
  text : List Char
  deriving DecidableEq, Repr

/-- Number lines upwards from the given number. -/
def numberFrom : Nat → List (List Char) → List Line
  | _, [] => []
  | n, text :: more => ⟨n, text⟩ :: numberFrom (n + 1) more

def Line.isBlank (line : Line) : Bool := Text.isBlank line.text

def Line.isHeader (line : Line) : Bool := headerMark.isPrefixOf line.text

/-- Says whether the line goes on with the block before it. -/
def Line.continuesBlock (line : Line) : Bool := !line.isBlank && !line.isHeader

/-- A block: the line that should be a header, and the lines after it. -/
structure Block where
  header : Line
  body : List Line
  deriving DecidableEq, Repr

/-- The blocks of a script's lines. -/
def blocks : List Line → List Block
  | [] => []
  | line :: more =>
    if line.isBlank then blocks more
    else ⟨line, more.takeWhile Line.continuesBlock⟩ :: blocks (more.dropWhile Line.continuesBlock)
  termination_by lines => lines.length
  decreasing_by
    all_goals
      have shorter := (List.dropWhile_sublist Line.continuesBlock (l := more)).length_le
      simp only [List.length_cons]
      omega

/-- The block that a header opens, up to a line that does not go on with it. -/
theorem blocks_append {header : Line} {body rest : List Line} (solid : header.isBlank = false)
    (continues : ∀ line ∈ body, line.continuesBlock = true)
    (stops : ∀ line, rest.head? = some line → line.continuesBlock = false) :
    blocks (header :: (body ++ rest)) = ⟨header, body⟩ :: blocks rest := by
  have none_taken : rest.takeWhile Line.continuesBlock = [] := by
    cases rest with
    | nil => rfl
    | cons line rest => exact List.takeWhile_cons_of_neg (by rw [stops line rfl]; decide)
  have none_dropped : rest.dropWhile Line.continuesBlock = rest := by
    cases rest with
    | nil => rfl
    | cons line rest => exact List.dropWhile_cons_of_neg (by rw [stops line rfl]; decide)
  rw [blocks, solid, List.takeWhile_append_of_pos continues, List.dropWhile_append_of_pos continues,
    none_taken, none_dropped, List.append_nil]
  rfl

end Script
end Gamebook
