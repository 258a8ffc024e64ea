import Gamebook.Files.Tree
import Gamebook.Goal
import Gamebook.Toml.Read

namespace Gamebook

/-!
# Settings

A settings file says towards which goals games are played, where stories and
saved sessions are, with which player a game starts, and how wide text is.
Every key may be left out.  A file that is missing, that is not well written or
that describes an invalid player counts for nothing.
-/

/-- The directories of the library, relative to the data root. -/
structure Folders where
  stories : String := "stories"
  saves : String := "saves"
  deriving DecidableEq, Repr

/-- The player with whom a game starts.  The values are not checked yet. -/
structure PlayerSettings where
  name : String := "Wanderer"
  health : Nat := 100
  score : Nat := 0
  gold : Nat := 0
  inventory : List String := []
  deriving DecidableEq, Repr

def PlayerSettings.player (settings : PlayerSettings) : Except Violation Player := do
  let player ← Player.create settings.name settings.health settings.score settings.gold
  player.takeAll settings.inventory

/-- The settings of a player of gamebooks.  A width of zero stands for the width of
the terminal. -/
structure Settings where
  goals : List Goal := [.reach .health 1]
  folders : Folders := {}
  player : PlayerSettings := {}
  width : Nat := 80
  deriving DecidableEq, Repr

namespace Settings

open Toml (Item Members)

/-- The fields that an item gives to a record.  A table gives them by name, and a
list gives them in their order; what is left over is passed over.  A moment is a
record of its own kind, which gives none. -/
def fields? (names : List String) : Item → Option Members
  | .table _ members => some members
  | .array items => some (names.zip items)
  | .tables all => some (names.zip (all.map (.table .header)))
  | .moment => some []
  | _ => none

/-- The value of a field, or the given one when the field is left out. -/
def field {α : Type} (members : Members) (name : String) (take : Item → Option α)
    (usual : α) : Option α :=
  match members.lookup? name with
  | none => some usual
  | some item => take item

def string? : Item → Option String
  | .string value => some value
  | _ => none

/-- Take a number of at least zero. -/
def natural? : Item → Option Nat
  | .integer value => if 0 ≤ value then some value.toNat else none
  | _ => none

/-- Take an unsigned 32-bit number. -/
def word32? (item : Item) : Option Nat :=
  (natural? item).filter fun value => value < Number.twoTo 32

def all? {α : Type} (take : Item → Option α) : List Item → Option (List α)
  | [] => some []
  | item :: items => do
    let value ← take item
    some (value :: (← all? take items))

def list? {α : Type} (take : Item → Option α) : Item → Option (List α)
  | .array items => all? take items
  | .tables all => all? take (all.map (.table .header))
  | _ => none

def payload? : Item → Option Payload
  | .integer value => some (.number value)
  | .string value => some (.text value)
  | .array items => (all? string? items).map .items
  | _ => none

def goal? : Item → Option Goal
  | .table _ members => do
    let payloads ← all? payload? (members.map (·.2))
    (Goal.ofEntry (.ofWritten ((members.map (·.1)).zip payloads))).toOption
  | _ => none

/-- Take the directories. -/
def folders? (item : Item) : Option Folders := do
  let members ← fields? ["stories_dir", "saves_dir"] item
  let usual : Folders := {}
  let stories ← field members "stories_dir" string? usual.stories
  let saves ← field members "saves_dir" string? usual.saves
  some { stories, saves }

def player? (item : Item) : Option PlayerSettings := do
  let members ← fields? ["name", "health", "score", "gold", "inventory"] item
  let usual : PlayerSettings := {}
  let name ← field members "name" string? usual.name
  let health ← field members "health" word32? usual.health
  let score ← field members "score" word32? usual.score
  let gold ← field members "gold" word32? usual.gold
  let inventory ← field members "inventory" (list? string?) usual.inventory
  some { name, health, score, gold, inventory }

def width? (item : Item) : Option Nat := do
  let members ← fields? ["wrap_width"] item
  let usual : Settings := {}
  field members "wrap_width" natural? usual.width

/-- The settings that a file's members give, if they describe a valid player. -/
def ofMembers? (members : Members) : Option Settings := do
  let usual : Settings := {}
  let goals ← field members "goals" (list? goal?) usual.goals
  let folders ← field members "library" folders? usual.folders
  let player ← field members "player" player? usual.player
  let width ← field members "display" width? usual.width
  match player.player with
  | .ok _ => some { goals, folders, player, width }
  | .error _ => none

def ofText? (text : String) : Option Settings := (Toml.read text).bind ofMembers?

/-- The settings in a file, or the usual ones. -/
def load (tree : Files.Tree) (path : String) : Settings :=
  match tree.read path with
  | .ok text => (ofText? text).getD {}
  | .error _ => {}

end Settings

end Gamebook
