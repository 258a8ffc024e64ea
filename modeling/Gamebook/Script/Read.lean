import Gamebook.Script.Block
import Gamebook.Script.Fault

namespace Gamebook
namespace Script

/-!
# Reading a script

A story is read block by block, and a block line by line, so the first line
that is wrong decides the refusal.  A passage whose title or content breaks a
rule is refused at its header, and a link that repeats another is refused at its
own line once it is known to be complete.
-/

def refuse {α : Type} (line : Line) (cause : Cause) : Except Fault α :=
  .error ⟨line.number, cause⟩

/-- Refuse a line that is not what it should be. -/
def malformed {α : Type} (line : Line) (reason : Malformation) : Except Fault α :=
  refuse line (.malformed reason (String.ofList line.text))

/-- Refuse a line for the rule that its value breaks. -/
def obeyingAt {α : Type} (line : Line) : Except Violation α → Except Fault α
  | .ok value => .ok value
  | .error violation => refuse line (.invalid violation)

/-! ## Links and their actions -/

/-- Split at the last mark between the parts of a link that has something after
it. -/
def splitLink? : List Char → Option (List Char × List Char)
  | [] => none
  | c :: rest =>
    match splitLink? rest with
    | some (before, after) => some (c :: before, after)
    | none =>
      match c, rest with
      | ']', '(' :: a :: after => some ([], a :: after)
      | _, _ => none

/-- The text without the given last character, when it ends in it. -/
def stripLast? (last : Char) (cs : List Char) : Option (List Char) :=
  if cs.getLast? = some last then some cs.dropLast else none

/-- The text and the reference of a link's line.  Neither may be empty, and
blanks at the end of the line do not count. -/
def linkParts? (text : List Char) : Option (List Char × List Char) :=
  match Text.trimEnd text with
  | '[' :: rest =>
    match stripLast? ')' rest with
    | some (c :: inner) => (splitLink? inner).map fun (before, after) => (c :: before, after)
    | _ => none
  | _ => none

def readLink (line : Line) : Except Fault Link :=
  match linkParts? line.text with
  | none => malformed line .notLink
  | some (text, reference) =>
    obeyingAt line (Link.create (String.ofList text) (String.ofList reference))

/-- The short forms on an action line.  Blanks around them do not count, and
empty ones are passed over. -/
def actionTokens? (text : List Char) : Option (List (List Char)) :=
  match Text.trim text with
  | '\x7b' :: rest =>
    (stripLast? '\x7d' rest).map fun inner =>
      ((Text.pieces ',' inner).map Text.trim).filter fun token => !token.isEmpty
  | _ => none

/-- Read short forms; the first that means nothing decides. -/
def readTokens : List (List Char) → Except TagError (List Action)
  | [] => .ok []
  | token :: tokens => do
    let action ← Action.ofShort (String.ofList token)
    .ok (action :: (← readTokens tokens))

def readActions (line : Line) : Except Fault (List Action) :=
  match actionTokens? line.text with
  | none => malformed line .actionsNotWrapped
  | some tokens =>
    match readTokens tokens with
    | .ok actions => .ok actions
    | .error error => refuse line (.action error)

def Line.isActions (line : Line) : Bool := (Text.trimStart line.text).head? = some '\x7b'

/-- A link that is not yet on its passage, because actions may follow. -/
structure Pending where
  line : Line
  link : Link
  hasActions : Bool
  deriving Repr

/-- Put a link that is complete on its passage. -/
def attach (passage : Passage) : Option Pending → Except Fault Passage
  | none => .ok passage
  | some pending => obeyingAt pending.line (passage.addLink pending.link)

/-- Read the lines of a block that come after the content. -/
def readLinks (passage : Passage) (pending : Option Pending) : List Line → Except Fault Passage
  | [] => attach passage pending
  | line :: lines =>
    if line.isActions then
      match pending with
      | none => malformed line .actionsWithoutLink
      | some pending =>
        if pending.hasActions then malformed line .secondActions
        else do
          let actions ← readActions line
          let link := pending.link.withActions (pending.link.actions ++ actions)
          readLinks passage (some { pending with link, hasActions := true }) lines
    else do
      let passage ← attach passage pending
      let link ← readLink line
      readLinks passage (some { line, link, hasActions := false }) lines

theorem readLinks_cons_link {line : Line} (noActions : line.isActions = false) (passage : Passage)
    (pending : Option Pending) (lines : List Line) :
    readLinks passage pending (line :: lines) = (do
      let passage ← attach passage pending
      let link ← readLink line
      readLinks passage (some { line, link, hasActions := false }) lines) := by
  conv => lhs; unfold readLinks
  simp only [noActions, Bool.false_eq_true, if_false]

theorem readLinks_cons_actions {line : Line} (areActions : line.isActions = true)
    (passage : Passage) (first : Line) (link : Link) (lines : List Line) :
    readLinks passage (some ⟨first, link, false⟩) (line :: lines) = (do
      let actions ← readActions line
      readLinks passage (some ⟨first, link.withActions (link.actions ++ actions), true⟩)
        lines) := by
  conv => lhs; unfold readLinks
  simp only [areActions, if_true, Bool.false_eq_true, if_false]

/-! ## Passages -/

/-- The attributes of a passage. -/
structure Attributes where
  mood : Mood := .none
  singleVisit : Bool := false
  deriving DecidableEq, Repr

/-- Read attribute lines, and return the lines after them.  An attribute that is
given again replaces the one before. -/
def readAttributes (attributes : Attributes) : List Line → Except Fault (Attributes × List Line)
  | [] => .ok (attributes, [])
  | line :: lines =>
    match Text.stripOpening? moodMark line.text with
    | some key =>
      match Mood.ofKey? key with
      | some mood => readAttributes { attributes with mood } lines
      | none => malformed line .unknownMood
    | none =>
      if Text.trimEnd line.text = singleVisitLine then
        readAttributes { attributes with singleVisit := true } lines
      else .ok (attributes, line :: lines)

def Block.read (block : Block) : Except Fault Passage :=
  match Text.stripOpening? headerMark block.header.text with
  | none => malformed block.header .notHeader
  | some title => do
    let title := String.ofList title
    match ← readAttributes {} block.body with
    | (_, []) => refuse block.header (.missingContent title)
    | (attributes, content :: lines) =>
      let passage ← obeyingAt block.header (Passage.create title (String.ofList content.text))
      let passage := { passage with mood := attributes.mood, singleVisit := attributes.singleVisit }
      readLinks passage none lines

/-! ## Stories -/

def readStored (story : Story) : List Block → Except Fault Story
  | [] => .ok story
  | block :: blocks => do
    let passage ← block.read
    match story.add? passage with
    | none => refuse block.header (.duplicatePassage passage.title)
    | some story => readStored story blocks

def readLines : List (List Char) → Except Fault Story
  | [] => .error ⟨1, .missingTitle⟩
  | title :: lines =>
    if Text.isBlank title then .error ⟨1, .missingTitle⟩
    else
      match lines with
      | [] => .error ⟨2, .missingOpening⟩
      | second :: lines =>
        if !Text.isBlank second then malformed ⟨2, second⟩ .titleNotAlone
        else
          match blocks (numberFrom 3 lines) with
          | [] => .error ⟨lines.length + 3, .missingOpening⟩
          | block :: blocks => do
            let opening ← block.read
            let story ← obeyingAt ⟨1, title⟩ (Story.create (String.ofList title) opening)
            readStored story blocks

end Script

def Story.ofScript (script : String) : Except Script.Fault Story :=
  Script.readLines (Text.lines script.toList)

end Gamebook
