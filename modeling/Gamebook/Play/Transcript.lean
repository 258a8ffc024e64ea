import Gamebook.Play.Table

namespace Gamebook
namespace Play

/-!
# A whole evening at the table

Commands come in lines.  The evening ends when the player leaves, when there are
no more lines, or at a line that is not text.
-/

/-- Everything that was printed, how the table was left, and whether a line was
not text. -/
structure Transcript where
  output : String
  table : Table
  failed : Bool

def Screen.text (screen : Screen) : String :=
  String.join (screen.map fun text => text ++ "\n")

/-- The text without line ends after it. -/
def dropLineEnds (cs : List Char) : List Char :=
  (cs.reverse.dropWhile fun c => c = '\n' || c = '\r').reverse

/-- What comes of a line that the player types. -/
inductive Reply
  | passedOver
  | answered (screen : Screen) (table : Table)
  | left
  | unreadable

/-- Hear a line.  A blank line is passed over. -/
def Table.hear (table : Table) : Files.Content → Reply
  | .bytes _ => .unreadable
  | .text line =>
    let line := dropLineEnds line.toList
    if Text.isBlank line then .passedOver
    else
      match Command.ofLine (String.ofList line) with
      | .quit => .left
      | command =>
        let (screen, after) := table.obey command
        .answered screen after

/-- Go on with the lines that the player types.  Each is asked for. -/
def Table.goOn (table : Table) : List Files.Content → Transcript
  | [] => ⟨table.prompt, table, false⟩
  | line :: lines =>
    match table.hear line with
    | .passedOver =>
      let rest := table.goOn lines
      { rest with output := table.prompt ++ rest.output }
    | .answered screen after =>
      let rest := after.goOn lines
      { rest with output := table.prompt ++ screen.text ++ rest.output }
    | .left => ⟨table.prompt, table, false⟩
    | .unreadable => ⟨table.prompt, table, true⟩

/-- The whole evening. -/
def Table.transcript (table : Table) (wanted : Option String) (lines : List Files.Content) :
    Transcript :=
  let (screen, table) := table.firstScreen wanted
  let rest := table.goOn lines
  { rest with output := Screen.text screen ++ rest.output }

end Play
end Gamebook
