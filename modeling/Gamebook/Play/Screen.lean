import Gamebook.Library
import Gamebook.Terminal.Fill
import Gamebook.Terminal.Style

namespace Gamebook
namespace Play

/-!
# What the player sees

A screen is a list of texts, each of which is printed with a line end after it.
-/

open Terminal (Palette Style)

/-- How texts are shown: the palette and the width of passages. -/
structure View where
  palette : Palette
  width : Nat
  deriving DecidableEq, Repr

/-- Texts to be printed, each with a line end after it. -/
abbrev Screen := List String

namespace View

def paint (view : View) (style : Style) (text : String) : String :=
  style.paint view.palette text

def failure (view : View) (message : String) : Screen := [view.paint .error message]

/-- A request that cannot be met now. -/
def denial (view : View) (message : String) : Screen := [view.paint .denial message]

/-- The answer to a request that needs a game. -/
def noGame (view : View) : Screen :=
  view.denial "No game in progress. Try 'play <story>'."

/-- The goals, and which of them are met. -/
def goals (view : View) (session : Session) : Screen :=
  view.paint .heading "Goals" ::
    session.goalReport.map fun (goal, fulfilled) =>
      if fulfilled then "  [x] " ++ view.paint .fulfilledGoal goal.describe
      else "  [ ] " ++ view.paint .openGoal goal.describe

/-- The state of the player. -/
def status (view : View) (session : Session) : Screen :=
  let player := session.player
  let statistic (value : Nat) := view.paint .statistic (Text.decimal value)
  [view.paint .heading player.name,
    "  health " ++ statistic player.health,
    "  score  " ++ statistic player.score,
    "  gold   " ++ statistic player.gold] ++
  (if player.inventory.isEmpty then []
    else ["  carrying " ++ ", ".intercalate player.inventory])

/-- The content of a passage, in lines of the view's width. -/
def content (view : View) (passage : Passage) : String :=
  view.paint (.content passage.mood)
    (String.ofList (Text.join ['\n'] (Terminal.fill view.width passage.content.toList)))

/-- The links of a passage with the numbers that pick them. -/
def links (view : View) (session : Session) : Screen :=
  session.offered.zipIdx.map fun (link, index) =>
    "  " ++ Text.decimal (index + 1) ++ ") " ++ view.paint .link link.text

/-- The passage on which the session stands, and what can be done there. -/
def passage (view : View) (session : Session) : Screen :=
  [view.paint .passageTitle session.passage.title, view.content session.passage] ++
    if session.isFinished then ["\n" ++ view.paint .storyTitle "THE END"] ++ view.goals session
    else
      (if session.offered.isEmpty then view.denial "Every way onward is closed." else []) ++
        view.links session

/-- The opening screen of a session that was started or loaded. -/
def arrival (view : View) (session : Session) : Screen :=
  ("\n" ++ view.paint .storyTitle session.story.title ++ "\n") :: view.passage session

def storyLine (view : View) (entry : StoryEntry) : String :=
  match entry.status with
  | .corrupted message => "  " ++ entry.name ++ " - " ++ view.paint .error message
  | .ready report =>
    let broken := report.brokenLinks.length
    let warning := if broken = 0 then "" else " (" ++ Text.decimal broken ++ " broken link(s))"
    "  " ++ entry.name ++ " - " ++ view.paint .storyTitle report.title ++ ", " ++
      Text.decimal report.passageCount ++ " passage(s)" ++ warning ++ " " ++
      ageText entry.changed.age

def stories (view : View) (library : Library) (tree : Files.Tree) : Screen :=
  view.paint .heading "Stories" ::
    match library.listStories tree with
    | .error error => view.failure error.message
    | .ok [] => ["  (none in " ++ library.stories ++ ")"]
    | .ok entries => entries.map view.storyLine

/-- A saved session in the listing. -/
def sessionLine (view : View) (entry : SessionEntry) : String :=
  match entry.status with
  | .corrupted message => "  " ++ entry.slot ++ " - " ++ view.paint .error message
  | .ready summary =>
    "  " ++ entry.slot ++ " - " ++ summary.story ++ " as " ++ summary.player ++
      " at '" ++ summary.passage ++ "'" ++ (if summary.finished then " (finished)" else "") ++
      " " ++ ageText entry.changed.age

def saves (view : View) (library : Library) (tree : Files.Tree) : Screen :=
  view.paint .heading "Saved games" ::
    match library.listSessions tree with
    | .error error => view.failure error.message
    | .ok [] => ["  (none)"]
    | .ok entries => entries.map view.sessionLine

/-- The commands. -/
def help (view : View) : Screen :=
  [view.paint .heading "Commands",
    "  list            stories in the library",
    "  play <story>    start a story by name",
    "  <number>        follow one of the offered choices",
    "  look            show the current passage again",
    "  status, goals   player state and goal progress",
    "  save <slot>     save the game in progress",
    "  saves           list saved games",
    "  load <slot>     resume a saved game",
    "  quit            leave"]

/-- The text that asks for a command. -/
def prompt (view : View) (session : Option Session) : String :=
  view.paint .prompt <|
    match session with
    | none => "\n[library]>> "
    | some session =>
      let player := session.player
      "\n[HP " ++ Text.decimal player.health ++ " | Score " ++ Text.decimal player.score ++
        " | Gold " ++ Text.decimal player.gold ++ "]>> "

end View

end Play
end Gamebook
