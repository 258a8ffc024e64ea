import Gamebook.Goal
import Gamebook.Story

namespace Gamebook

/-!
# Games

A game is a player, a story, and the goals that the player plays towards.
-/

/-- A player in a story, with goals. -/
structure Game where
  player : Player
  story : Story
  goals : List Goal
  deriving DecidableEq, Repr

/-- No passage of the story has the title. -/
structure MissingPassage where
  title : String
  deriving DecidableEq, Repr

/-- The wording of the refusal. -/
def MissingPassage.message (missing : MissingPassage) : String :=
  "no passage titled '" ++ missing.title ++ "' in story"

namespace Game

def start (game : Game) : Passage := game.story.opening

def follow (game : Game) (link : Link) : Except MissingPassage Passage :=
  match game.story.find? link.reference with
  | some passage => .ok passage
  | none => .error ⟨link.reference⟩

/-- What holds of every game that can be played. -/
structure WellFormed (game : Game) : Prop where
  player : game.player.Valid
  story : game.story.WellFormed
  goals : ∀ goal ∈ game.goals, goal.Valid

end Game

end Gamebook
