import Gamebook.Document.Story
import Gamebook.Session

namespace Gamebook
namespace Document

/-!
# Games and sessions in documents

A saved session is a game, the title of the passage on which the session
stands, and the titles visited so far.
-/

open Json (Value Reading)
open Json.Decode (Shape listing string word32 list)

/-! ## Players -/

def ofPlayer (player : Player) : Value :=
  .object
    [("name", .string player.name), ("health", .integer player.health),
      ("score", .integer player.score), ("gold", .integer player.gold),
      ("inventory", .array (player.inventory.map .string))]

def playerShape : Shape := ⟨"RawPlayer", ["name", "health", "score", "gold", "inventory"]⟩

/-- A player of which some fields are given. -/
structure PlayerFields where
  name : Option String := none
  health : Option Nat := none
  score : Option Nat := none
  gold : Option Nat := none
  inventory : List String := []

def PlayerFields.put (field : String) (reading : Reading) (player : PlayerFields) :
    Except Problem PlayerFields :=
  if field = "name" then return { player with name := ← string reading }
  else if field = "health" then return { player with health := ← word32 reading }
  else if field = "score" then return { player with score := ← word32 reading }
  else if field = "gold" then return { player with gold := ← word32 reading }
  else return { player with inventory := ← list string reading }

def takePlayer : Decoder Player := fun reading => do
  let listing ← listing playerShape reading
  let fields ← listing.collect {} PlayerFields.put
  let name ← listing.require "name" fields.name
  let health ← listing.require "health" fields.health
  let score ← listing.require "score" fields.score
  let gold ← listing.require "gold" fields.gold
  obeying do
    let player ← Player.create name health score gold
    player.takeAll fields.inventory

/-! ## Games -/

def ofGame (game : Game) : Value :=
  .object
    [("player", ofPlayer game.player), ("story", ofStory game.story),
      ("goals", .array (game.goals.map ofGoal))]

def gameShape : Shape := ⟨"Game", ["player", "story", "goals"]⟩

/-- A game of which some fields are given. -/
structure GameFields where
  player : Option Player := none
  story : Option Story := none
  goals : Option (List Goal) := none

def GameFields.put (field : String) (reading : Reading) (game : GameFields) :
    Except Problem GameFields :=
  if field = "player" then return { game with player := ← takePlayer reading }
  else if field = "story" then return { game with story := ← takeStory reading }
  else return { game with goals := ← list takeGoal reading }

def takeGame : Decoder Game := fun reading => do
  let listing ← listing gameShape reading
  let fields ← listing.collect {} GameFields.put
  let player ← listing.require "player" fields.player
  let story ← listing.require "story" fields.story
  let goals ← listing.require "goals" fields.goals
  .ok { player, story, goals }

/-! ## Sessions -/

def ofSnapshot (kept : Snapshot) : Value :=
  .object
    [("game", ofGame kept.game), ("passage", .string kept.passage),
      ("visitedPassages", .array (kept.visited.map .string))]

def sessionShape : Shape := ⟨"SessionFile", ["game", "passage", "visitedPassages"]⟩

/-- A session of which some fields are given. -/
structure SessionFields where
  game : Option Game := none
  passage : Option String := none
  visited : Option (List String) := none

def SessionFields.put (field : String) (reading : Reading) (session : SessionFields) :
    Except Problem SessionFields :=
  if field = "game" then return { session with game := ← takeGame reading }
  else if field = "passage" then return { session with passage := ← string reading }
  else return { session with visited := ← list string reading }

/-- Take what is kept of a session.  Its titles are not looked up in its story. -/
def takeSnapshot : Decoder Snapshot := fun reading => do
  let listing ← listing sessionShape reading
  let fields ← listing.collect {} SessionFields.put
  let game ← listing.require "game" fields.game
  let passage ← listing.require "passage" fields.passage
  let visited ← listing.require "visitedPassages" fields.visited
  .ok { game, passage, visited }

end Document

/-- Why a document is not a story or a session. -/
inductive DecodeFault
  | problem (problem : Problem)
  | missing (passage : MissingPassage)
  deriving DecidableEq, Repr

/-- The wording of the refusal. -/
def DecodeFault.message : DecodeFault → String
  | .problem cause => "invalid JSON: " ++ cause.wording
  | .missing passage => passage.message

/-- Says whether the fault is at a place in the text.  A story that is refused as a whole is
refused at none, and a passage is looked for when the text has been read. -/
def DecodeFault.isPlaced : DecodeFault → Bool
  | .problem (.refused (.whole _)) | .missing _ => false
  | .problem _ => true

/-- The laid out text of a session. -/
def Session.toJson (session : Session) : String :=
  (Document.ofSnapshot session.snapshot).text .indented

/-- Read a session from a document. -/
def Session.ofJson (text : String) : Except DecodeFault Session :=
  match Json.decode Document.takeSnapshot text with
  | .error problem => .error (.problem problem)
  | .ok kept =>
    match Session.restore kept with
    | .error missing => .error (.missing missing)
    | .ok session => .ok session

/-- Read a story from a document. -/
def Story.ofJson (text : String) : Except DecodeFault Story :=
  match Json.decode Document.takeWholeStory text with
  | .error problem => .error (.problem problem)
  | .ok story => .ok story

end Gamebook
