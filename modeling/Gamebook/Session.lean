import Gamebook.Game
import Gamebook.Report

namespace Gamebook

/-!
# Sessions

A session walks a game's story one link at a time.  It stands on a passage, of
which it knows the title, and remembers the titles visited so far.  Only the
player changes: the story is the same from the first passage to the last, so its
broken links are looked for once, when the session starts.
-/

/-- A game in progress.  The visits are in order, the passage on which the
session stands included. -/
structure Session where
  game : Game
  current : String
  visited : List String
  broken : List LinkKey
  deriving DecidableEq, Repr

/-- All that is kept of a session in order to resume it. -/
structure Snapshot where
  game : Game
  passage : String
  visited : List String
  deriving DecidableEq, Repr

/-- Why a choice is refused. -/
inductive ChoiceError
  | notOffered (key : LinkKey)
  | missing (passage : MissingPassage)
  | rejected (violation : Violation)
  deriving DecidableEq, Repr

/-- The wording of a refusal. -/
def ChoiceError.message : ChoiceError → String
  | .notOffered key => "link [" ++ key.text ++ "](" ++ key.reference ++ ") is not available here"
  | .missing passage => passage.message
  | .rejected violation => "action rejected: " ++ violation.message

namespace Story

/-- Says whether a link to the title may be followed after these visits.  The
opening may always be visited again, and so may any passage that is not for a
single visit. -/
def admits (story : Story) (visited : List String) (title : String) : Bool :=
  title = story.opening.title || !visited.contains title ||
    !(story.find? title).any Passage.singleVisit

/-- The links of a passage that are offered after these visits, in the order of
the passage.  Links with a broken key are never offered. -/
def offered (story : Story) (broken : List LinkKey) (visited : List String) (passage : Passage) :
    List Link :=
  passage.links.filter fun link =>
    !broken.contains link.key && story.admits visited link.reference

end Story

namespace Session

/-- The session that stands on the opening. -/
def start (game : Game) : Session where
  game := game
  current := game.start.title
  visited := [game.start.title]
  broken := game.story.brokenLinks

def story (session : Session) : Story := session.game.story

/-- The player as the choices so far have left them. -/
def player (session : Session) : Player := session.game.player

/-- The passage on which the session stands.  The opening takes its place when
the story has no passage with the title. -/
def passage (session : Session) : Passage :=
  (session.story.find? session.current).getD session.game.start

/-- The links that may be chosen now. -/
def offered (session : Session) : List Link :=
  session.story.offered session.broken session.visited session.passage

/-- Go on with a value, or refuse the choice for the reason why there is none. -/
def insist {ε α : Type} (reason : ε → ChoiceError) (value : Except ε α) :
    ExceptT ChoiceError (StateM Session) α :=
  ExceptT.mk (pure (value.mapError reason))

/-- Follow a link.  Its actions are executed in order on a copy of the player,
and the session moves only when none of them is forbidden.  What has been
changed before a refusal would stay changed. -/
def follow (link : Link) : ExceptT ChoiceError (StateM Session) Passage := do
  let session ← get
  let target ← insist .missing (session.game.follow link)
  let player ← insist .rejected (Action.executeAll link.actions session.player)
  modify fun session => { session with game := { session.game with player } }
  modify fun session => { session with visited := session.visited ++ [target.title] }
  modify fun session => { session with current := target.title }
  return (← get).passage

/-- Follow the link with this key, if it is offered. -/
def followKey (key : LinkKey) : ExceptT ChoiceError (StateM Session) Passage := do
  let found := (← get).offered.find? fun link => link.key = key
  found.elim (throw (.notOffered key)) follow

/-- The answer to a choice, and the session after it. -/
def choose (session : Session) (key : LinkKey) : Except ChoiceError Passage × Session :=
  (followKey key).run.run session

def isFinished (session : Session) : Bool := session.passage.isEnding

/-- The goals, each with whether the player meets it now. -/
def goalReport (session : Session) : List (Goal × Bool) :=
  session.game.goals.map fun goal => (goal, goal.isFulfilled session.player)

/-- Says whether the player meets every goal now. -/
def goalsFulfilled (session : Session) : Bool :=
  session.goalReport.all (·.2)

def snapshot (session : Session) : Snapshot where
  game := session.game
  passage := session.current
  visited := session.visited

/-- Resume a session from what was kept of one.  Every title must name a passage.
Without visits, the passage itself is the first. -/
def restore (kept : Snapshot) : Except MissingPassage Session :=
  match (kept.passage :: kept.visited).find? fun title => !kept.game.story.contains title with
  | some missing => .error ⟨missing⟩
  | none =>
    .ok
      { game := kept.game
        current := kept.passage
        visited := if kept.visited.isEmpty then [kept.passage] else kept.visited
        broken := kept.game.story.brokenLinks }

/-- Says whether the sessions agree in all but the actions of their stories'
links. -/
def alike (a b : Session) : Bool :=
  a.player = b.player && a.story.alike b.story && a.game.goals = b.game.goals &&
    a.current = b.current && a.visited = b.visited

end Session

end Gamebook
