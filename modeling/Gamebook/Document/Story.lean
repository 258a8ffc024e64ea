import Gamebook.Document.Effect
import Gamebook.Story

namespace Gamebook
namespace Document

/-!
# Stories in documents

A link, a passage and a story are records.  What the script format leaves out
when it is empty may be left out here too, but it is always written.
-/

open Json (Value Reading)
open Json.Decode (Shape listing string bool list map)

/-! ## Moods -/

def ofMood (mood : Mood) : Value := .string mood.key

def moodOfKey (key : String) : Except Problem Mood :=
  match Mood.all.find? fun mood => mood.key = key with
  | some mood => .ok mood
  | none => .error (.unknownVariant key (Mood.all.map Mood.key))

/-- Take a mood.  Its key may stand by itself, or as the only member of an object
whose value is null. -/
def takeMood : Decoder Mood
  | .string key => moodOfKey key
  | .object [] none => .error (.fault .expectedValue)
  | .object [] (some .endInObject) => .error (.fault .endInValue)
  | .object [] (some fault) => .error (.fault fault)
  | .object ((key, value) :: more) fault => do
    let mood ← moodOfKey key
    match value with
    | .null =>
      match more, fault with
      | [], none => .ok mood
      | [], some .endInObject => .error (.fault .endInObject)
      | _, _ => .error (.fault .expectedValue)
    | value => .error (value.mismatch "unit")
  | .strayKey found => .error (found.mismatch "variant identifier")
  | .unread fault => .error (.fault fault)
  | _ => .error (.fault .expectedValue)

/-! ## Links -/

def ofLink (link : Link) : Value :=
  .object
    [("text", .string link.text), ("ref", .string link.reference),
      ("actions", .array (link.actions.map ofAction))]

def linkShape : Shape := ⟨"RawLink", ["text", "ref", "actions"]⟩

/-- A link of which some fields are given. -/
structure LinkFields where
  text : Option String := none
  reference : Option String := none
  actions : List Action := []

def LinkFields.put (field : String) (reading : Reading) (link : LinkFields) :
    Except Problem LinkFields :=
  if field = "text" then return { link with text := ← string reading }
  else if field = "ref" then return { link with reference := ← string reading }
  else return { link with actions := ← list takeAction reading }

def takeLink : Decoder Link := fun reading => do
  let listing ← listing linkShape reading
  let fields ← listing.collect {} LinkFields.put
  let text ← listing.require "text" fields.text
  let reference ← listing.require "ref" fields.reference
  let link ← obeying (Link.create text reference)
  .ok (link.withActions fields.actions)

/-! ## Passages -/

def ofPassage (passage : Passage) : Value :=
  .object
    [("title", .string passage.title), ("content", .string passage.content),
      ("mood", ofMood passage.mood), ("singleVisitOnly", .bool passage.singleVisit),
      ("links", .array (passage.links.map ofLink))]

def passageShape : Shape :=
  ⟨"RawPassage", ["title", "content", "mood", "singleVisitOnly", "links"]⟩

/-- A passage of which some fields are given. -/
structure PassageFields where
  title : Option String := none
  content : Option String := none
  mood : Mood := .none
  singleVisit : Bool := false
  links : List Link := []

def PassageFields.put (field : String) (reading : Reading) (passage : PassageFields) :
    Except Problem PassageFields :=
  if field = "title" then return { passage with title := ← string reading }
  else if field = "content" then return { passage with content := ← string reading }
  else if field = "mood" then return { passage with mood := ← takeMood reading }
  else if field = "singleVisitOnly" then return { passage with singleVisit := ← bool reading }
  else return { passage with links := ← list takeLink reading }

def takePassage : Decoder Passage := fun reading => do
  let listing ← listing passageShape reading
  let fields ← listing.collect {} PassageFields.put
  let title ← listing.require "title" fields.title
  let content ← listing.require "content" fields.content
  let passage ← obeying (Passage.create title content)
  let passage := { passage with mood := fields.mood, singleVisit := fields.singleVisit }
  obeying (passage.addLinks fields.links)

/-! ## Stories -/

/-- The value of a story.  The stored passages are the members of an object, by
their titles. -/
def ofStory (story : Story) : Value :=
  .object
    [("title", .string story.title), ("openingPassage", ofPassage story.opening),
      ("passages", .object (story.stored.map fun passage => (passage.title, ofPassage passage)))]

def storyShape : Shape := ⟨"RawStory", ["title", "openingPassage", "passages"]⟩

/-- A story of which some fields are given. -/
structure StoryFields where
  title : Option String := none
  opening : Option Passage := none
  passages : List (String × Passage) := []

def StoryFields.put (field : String) (reading : Reading) (story : StoryFields) :
    Except Problem StoryFields :=
  if field = "title" then return { story with title := ← string reading }
  else if field = "openingPassage" then return { story with opening := ← takePassage reading }
  else return { story with passages := ← map takePassage reading }

/-- Add passages to a story, each of which is written under a key. -/
def addFiled : Story → List (String × Passage) → Except Violation Story
  | story, [] => .ok story
  | story, (key, passage) :: more =>
    if key ≠ passage.title then .error (.misfiledPassage key passage.title)
    else
      match story.add? passage with
      | none => .error (.duplicateTitle key)
      | some story => addFiled story more

/-- Make a story of its fields.  A key that is written twice keeps its last
passage, and the passages are added in the order of their keys. -/
def storyOfFields (title : String) (opening : Passage) (passages : List (String × Passage)) :
    Except Violation Story := do
  let story ← Story.create title opening
  addFiled story (ascendingBy (·.1) passages)

/-- Take a story, where `accept` decides about the story as a whole. -/
def takeStoryWith (accept : Except Violation Story → Except Problem Story) : Decoder Story :=
  fun reading => do
    let listing ← listing storyShape reading
    let fields ← listing.collect {} StoryFields.put
    let title ← listing.require "title" fields.title
    let opening ← listing.require "openingPassage" fields.opening
    accept (storyOfFields title opening fields.passages)

def takeStory : Decoder Story := takeStoryWith obeying

def takeWholeStory : Decoder Story := takeStoryWith fun
  | .ok story => .ok story
  | .error violation => .error (.refused (.whole violation))

end Document

/-- The laid out text of a story. -/
def Story.toJson (story : Story) : String :=
  (Document.ofStory story).text .indented

end Gamebook
