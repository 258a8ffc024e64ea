import Gamebook.Play.Command
import Gamebook.Play.Screen
import Gamebook.Settings

namespace Gamebook
namespace Play

/-!
# Playing at a table

A table has a library, settings, and perhaps a game in progress.  A command
shows a screen and may change the game or the files.
-/

/-- What a player of gamebooks works with. -/
structure Table where
  view : View
  library : Library
  settings : Settings
  tree : Files.Tree
  session : Option Session

namespace Table

/-- The width that stands for a terminal whose width is not known. -/
def usualWidth : Nat := 80

def create (palette : Terminal.Palette) (marker : Marker) (root : String) (settings : Settings)
    (tree : Files.Tree) : Table where
  view := ⟨palette, if settings.width = 0 then usualWidth else settings.width⟩
  library := .within root settings.folders.stories settings.folders.saves marker
  settings := settings
  tree := tree
  session := none

/-- A screen that depends on the game in progress. -/
def withSession (table : Table) (screen : Session → Screen) : Screen :=
  match table.session with
  | some session => screen session
  | none => table.view.noGame

/-- Start a story. -/
def play (table : Table) (name : String) : Screen × Table :=
  match table.library.openStory table.tree name with
  | .error error => (table.view.failure error.message, table)
  | .ok story =>
    match table.settings.player.player with
    | .error violation =>
      (table.view.failure ("invalid player settings: " ++ violation.message), table)
    | .ok player =>
      let session := Session.start { player, story, goals := table.settings.goals }
      (table.view.arrival session, { table with session := some session })

/-- Follow the link with this number.  Numbers start at one. -/
def choose (table : Table) (number : Nat) : Screen × Table :=
  match table.session with
  | none => (table.view.noGame, table)
  | some session =>
    match if number = 0 then none else session.offered[number - 1]? with
    | none => (table.view.denial ("There is no choice " ++ Text.decimal number ++ "."), table)
    | some link =>
      match session.choose link.key with
      | (.error error, session) =>
        (table.view.failure error.message, { table with session := some session })
      | (.ok _, session) => (table.view.passage session, { table with session := some session })

/-- Save the game in progress. -/
def save (table : Table) (slot : String) : Screen × Table :=
  match table.session with
  | none => (table.view.denial "No game in progress to save.", table)
  | some session =>
    match table.library.savingSession table.tree slot session with
    | (.error error, tree) => (table.view.failure error.message, { table with tree })
    | (.ok path, tree) => (["Saved to " ++ path ++ "."], { table with tree })

/-- Resume a saved game. -/
def load (table : Table) (slot : String) : Screen × Table :=
  match table.library.loadSession table.tree slot with
  | .error error => (table.view.failure error.message, table)
  | .ok session => (table.view.arrival session, { table with session := some session })

/-- Obey a command other than the one to leave. -/
def obey (table : Table) : Command → Screen × Table
  | .choose number => table.choose number
  | .look => (table.withSession table.view.passage, table)
  | .status => (table.withSession table.view.status, table)
  | .goals => (table.withSession table.view.goals, table)
  | .list => (table.view.stories table.library table.tree, table)
  | .play name => table.play name
  | .save slot => table.save slot
  | .saves => (table.view.saves table.library table.tree, table)
  | .load slot => table.load slot
  | .help => (table.view.help, table)
  | .quit => ([], table)
  | .unknown text =>
    (table.view.denial ("Didn't catch \"" ++ text ++ "\". Type 'help'."), table)

/-- The first screen.  It starts the story that is wanted, or shows the library. -/
def firstScreen (table : Table) (wanted : Option String) : Screen × Table :=
  match wanted with
  | some name => table.play name
  | none => (table.view.stories table.library table.tree, table)

/-- The text that asks for a command. -/
def prompt (table : Table) : String := table.view.prompt table.session

end Table

end Play
end Gamebook
