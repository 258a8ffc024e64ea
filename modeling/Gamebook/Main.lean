import Gamebook.CommandLine.Player
import Gamebook.CommandLine.Scripts

/-!
# The program

The first word picks a command: `script` works on a script, and `play` plays.
The commands work on files as a value, so that all that is done here is to look
at the files before, and to write those that have changed.

Files are looked at by their paths.  A script's paths are among the words.  The
files of a library are named, a path from the data root on each line, in a list at
that root; what the list does not name is not seen.  A game that is saved there is
put on the list.
-/

namespace Gamebook
namespace Program

open Files (Tree)

def listName : String := "files.txt"

def look (tree : Tree) (path : String) : IO Tree := do
  match ← (IO.FS.readBinFile path).toBaseIO with
  | .ok bytes => return tree.add path (.ofBytes bytes) 0
  | .error (.inappropriateType ..) => return tree.addDirectory path
  | .error _ => return tree

/-- The tree with what is found at a path and in the directories above it. -/
def lookAround (tree : Tree) (path : String) : IO Tree :=
  (Files.ancestors path).reverse.foldlM look tree

/-- Write what has changed, and remove what is gone. -/
def keep (old new : Tree) : IO Unit := do
  for (path, node) in new.beyond old do
    match node with
    | .directory => IO.FS.createDirAll path
    | .file (.text text) _ => IO.FS.writeFile path text
    | .file (.bytes _) _ => pure ()
  for (path, _) in old.beyond new do
    if !new.hasPath path then IO.FS.removeFile path

/-- Print what a command says, and keep what it did. -/
def finish (old : Tree) (outcome : CommandLine.Outcome) : IO UInt32 := do
  keep old outcome.tree
  IO.print outcome.output
  IO.eprint outcome.complaint
  return outcome.code.toUInt32

def script (words : List String) : IO UInt32 := do
  let tree ← words.foldlM lookAround Tree.empty
  finish tree (CommandLine.Scripts.run tree words)

/-- The variables on which playing depends. -/
def environment : IO CommandLine.Player.Environment := do
  let names := ["PATHS_DATA_DIR", "HOME", "XDG_DATA_HOME", "CLICOLOR_FORCE", "COLORTERM"]
  names.filterMapM fun name => return (← IO.getEnv name).map fun value => (name, value)

def lookAtLibrary (tree : Tree) (root : String) : IO Tree := do
  let listed := Files.join root listName
  let tree ← [listed, Files.join root "paths.toml"].foldlM lookAround tree
  match tree.read listed with
  | .error _ => return tree
  | .ok text =>
    let paths := (Text.lines text.toList).map String.ofList
    (paths.map (Files.join root)).foldlM lookAround tree

/-- The paths of new files below a root, seen from there. -/
def newBelow (root : String) (old new : Tree) : List String :=
  (new.beyond old).filterMap fun (path, node) =>
    match node with
    | .directory => none
    | .file .. =>
      if old.hasPath path then none
      else (Text.stripOpening? (Files.join root "").toList path.toList).map String.ofList

/-- Put new files on the list. -/
def enlist (root : String) (old new : Tree) : IO Unit := do
  let made := newBelow root old new
  if !made.isEmpty then
    IO.FS.withFile (Files.join root listName) .append fun handle =>
      handle.putStr (String.join (made.map fun path => path ++ "\n"))

/-- Print texts, each with a line end. -/
def display (screen : Play.Screen) : IO Unit := IO.print screen.text

/-- Read the bytes of a line after those that have been read.  At the end of the
input there are none. -/
partial def readLine (input : IO.FS.Stream) (line : ByteArray) : IO ByteArray := do
  let byte ← input.read 1
  if byte.isEmpty || byte.data.contains 10 then return line ++ byte
  readLine input (line ++ byte)

/-- Ask for a line and obey it, until the player leaves. -/
partial def converse (root : String) (input : IO.FS.Stream) (table : Play.Table) : IO UInt32 := do
  IO.print table.prompt
  (← IO.getStdout).flush
  let line ← readLine input .empty
  if line.isEmpty then return 0
  match table.hear (.ofBytes line) with
  | .passedOver => converse root input table
  | .left => return 0
  | .unreadable =>
    IO.eprint CommandLine.Player.unreadable
    return CommandLine.failed.toUInt32
  | .answered screen after =>
    keep table.tree after.tree
    enlist root table.tree after.tree
    display screen
    converse root input after

def play (words : List String) : IO UInt32 := do
  let environment ← environment
  let roots ← (CommandLine.Player.roots environment).foldlM lookAround Tree.empty
  let root := CommandLine.Player.dataRoot environment roots
  let tree ← lookAtLibrary roots root
  IO.print (CommandLine.Player.banner (CommandLine.Player.palette environment))
  let (screen, table) :=
    (CommandLine.Player.tableIn environment .silent tree).firstScreen
      (CommandLine.Player.wanted? words)
  display screen
  converse root (← IO.getStdin) table

end Program
end Gamebook

/-- Run the command that the first word picks. -/
def main : List String → IO UInt32
  | "script" :: words => Gamebook.Program.script words
  | "play" :: words => Gamebook.Program.play words
  | _ => do
    IO.eprintln "Usage: gamebook script <words> | gamebook play [story name]"
    return Gamebook.CommandLine.misused.toUInt32
