import Gamebook.CommandLine.Outcome
import Gamebook.Play.Transcript

namespace Gamebook
namespace CommandLine

/-!
# The command that plays

The command finds the data root, reads the settings in it, and plays.  The words
after its name are the name of a story to start with.
-/

namespace Player

abbrev Environment := List (String × String)

def Environment.value? (environment : Environment) (name : String) : Option String :=
  environment.lookup name

/-- What the terminal shows.  Colours are on when they are forced, and all of them
are there when the terminal says so. -/
def palette (environment : Environment) : Terminal.Palette :=
  match environment.value? "CLICOLOR_FORCE" with
  | none => .plain
  | some "0" => .plain
  | some _ =>
    match environment.value? "COLORTERM" with
    | some "truecolor" => .full
    | some "24bit" => .full
    | _ => .sixteen

/-- The directory in which the platform keeps data of this player. -/
def platformRoot? (environment : Environment) : Option String :=
  let base :=
    match (environment.value? "XDG_DATA_HOME").filter Files.isAbsolute with
    | some directory => some directory
    | none =>
      ((environment.value? "HOME").filter fun home : String => !home.isEmpty).map fun home =>
        Files.join home ".local/share"
  base.map fun base => Files.join base "paths_engine"

/-- The usual data roots, in the order in which they are tried. -/
def roots (environment : Environment) : List String :=
  ["paths_engine/data", "data"] ++ (platformRoot? environment).toList

/-- The data root.  A root that is asked for is taken as it is; otherwise it is the
first of the usual ones that exists. -/
def dataRoot (environment : Environment) (tree : Files.Tree) : String :=
  match environment.value? "PATHS_DATA_DIR" with
  | some root => root
  | none =>
    (((roots environment).find? tree.isDirectory).or (platformRoot? environment)).getD
      "paths_engine/data"

def bannerWidth : Nat := 60

/-- The text in the middle of the banner's width.  An odd space is put after it. -/
def centred (text : String) : String :=
  let room := bannerWidth - text.length
  String.ofList (List.replicate (room / 2) ' ' ++ text.toList ++
    List.replicate (room - room / 2) ' ')

/-- What is shown before anything else. -/
def banner (palette : Terminal.Palette) : String :=
  Terminal.Style.banner.paint palette (centred "PATHS") ++ "\n" ++
    centred "type 'help' for commands" ++ "\n\n"

/-- The complaint about a line that is not text. -/
def unreadable : String :=
  "Error: reading player input\n\nCaused by:\n    " ++ Files.FileError.notText.message ++ "\n"

def table (palette : Terminal.Palette) (marker : Marker) (root : String) (tree : Files.Tree) :
    Play.Table :=
  .create palette marker root (Settings.load tree (Files.join root "paths.toml")) tree

def tableIn (environment : Environment) (marker : Marker) (tree : Files.Tree) : Play.Table :=
  table (palette environment) marker (dataRoot environment tree) tree

/-- The name of the story that the words ask for. -/
def wanted? (words : List String) : Option String :=
  let name := " ".intercalate words
  if name.isEmpty then none else some name

/-- Run the command on the lines that the player types. -/
def run (environment : Environment) (marker : Marker) (tree : Files.Tree) (words : List String)
    (lines : List Files.Content) : Outcome :=
  let transcript := (tableIn environment marker tree).transcript (wanted? words) lines
  { code := if transcript.failed then failed else 0
    output := banner (palette environment) ++ transcript.output
    complaint := if transcript.failed then unreadable else ""
    tree := transcript.table.tree }

end Player

end CommandLine
end Gamebook
