import Gamebook.Document.Session
import Gamebook.Files.Tree
import Gamebook.Script.Read
import Gamebook.Slug

namespace Gamebook

/-!
# The library

Stories and saved sessions are files in two directories.  A story is a script
or a document, and its file is named by the slug of its title.  A session is a
document, named by the slug of its slot.  The library never replaces a readable
story by one with another title, and it keeps one file for each story.
-/

/-- The two forms of a story's file. -/
inductive StoryFormat
  | script
  | document
  deriving DecidableEq, Repr

namespace StoryFormat

/-- Both forms, in the order in which a story is looked for. -/
def all : List StoryFormat := [.script, .document]

theorem mem_all (format : StoryFormat) : format ∈ all := by
  cases format <;> decide

/-- The extension of the file's name. -/
def extension : StoryFormat → String
  | .script => "paths"
  | .document => "json"

/-- The form that an extension tells. -/
def ofExtension? (ext : String) : Option StoryFormat :=
  all.find? fun format => format.extension = ext

/-- The form that the extension of a path tells. -/
def ofPath? (path : String) : Option StoryFormat := (Files.extension? path).bind ofExtension?

/-- The text of a story's file. -/
def write (format : StoryFormat) (story : Story) : String :=
  match format with
  | .script => story.script
  | .document => story.toJson

end StoryFormat

/-- The kinds of things that are looked for by name. -/
inductive Wanted
  | story
  | session
  deriving DecidableEq, Repr

/-- The word for a kind of thing. -/
def Wanted.word : Wanted → String
  | .story => "story"
  | .session => "saved session"

/-- A place in a text. -/
structure Mark where
  line : Nat
  column : Nat
  deriving DecidableEq, Repr

/-- The wording of a place. -/
def Mark.wording (mark : Mark) : String :=
  " at line " ++ Text.decimal mark.line ++ " column " ++ Text.decimal mark.column

/-- Where the parser of JSON has stopped in a text that it was given to find something in.
The parser tells it beside a fault, and which places it tells is left open. -/
def Marker : Type := Wanted → String → Option Mark

/-- The parser that tells no places. -/
def Marker.silent : Marker := fun _ _ => none

/-- Why an operation of the library fails. -/
inductive LibraryError
  | access (path : String) (error : Files.FileError)
  | script (path : String) (fault : Script.Fault)
  | document (path : String) (fault : DecodeFault) (mark : Option Mark)
  | notFound (wanted : Wanted) (name : String)
  | otherTitle (path existing title : String)
  deriving DecidableEq, Repr

/-- The wording of a failure. -/
def LibraryError.message : LibraryError → String
  | .access path error => "unable to access '" ++ path ++ "': " ++ error.message
  | .script path fault => path ++ ": " ++ fault.message
  | .document path fault mark => path ++ ": " ++ fault.message ++ mark.elim "" Mark.wording
  | .notFound wanted name => "no " ++ wanted.word ++ " named '" ++ name ++ "'"
  | .otherTitle path existing title =>
    "'" ++ path ++ "' already holds the story '" ++ existing ++ "', not '" ++ title ++ "'"

/-- The most characters that the listing shows of a message. -/
def longestMessage : Nat := 120

/-- The message as the listing shows it.  A long one is cut, and three dots mark
the cut. -/
def LibraryError.brief (error : LibraryError) : String :=
  let message := error.message.toList
  if message.length ≤ longestMessage then error.message
  else String.ofList (message.take (longestMessage - 3) ++ ['.', '.', '.'])

/-- The directories of the stories and of the saved sessions, and the places that are
told of documents. -/
structure Library where
  stories : String
  saves : String
  marker : Marker

/-- What a file in a listing holds, or why it cannot be read. -/
inductive Status (α : Type)
  | ready (value : α)
  | corrupted (message : String)
  deriving DecidableEq, Repr

/-- A story's file in the listing. -/
structure StoryEntry where
  name : String
  path : String
  format : StoryFormat
  changed : Files.Time
  status : Status Report
  deriving DecidableEq, Repr

/-- What the listing tells of a session: the title of its story, the player's name, the
title of the passage, and whether it has come to an end. -/
structure SessionSummary where
  story : String
  player : String
  passage : String
  finished : Bool
  deriving DecidableEq, Repr

def Session.summary (session : Session) : SessionSummary where
  story := session.story.title
  player := session.player.name
  passage := session.passage.title
  finished := session.isFinished

/-- A saved session's file in the listing. -/
structure SessionEntry where
  slot : String
  path : String
  changed : Files.Time
  status : Status SessionSummary
  deriving DecidableEq, Repr

namespace Library

open Files (Tree)

/-- The library whose directories are given relative to a root. -/
def within (root stories saves : String) (marker : Marker) : Library :=
  ⟨Files.join root stories, Files.join root saves, marker⟩

def storyPath (library : Library) (title : String) (format : StoryFormat) : String :=
  Files.join library.stories (slug title ++ "." ++ format.extension)

/-- The path of a saved session's file. -/
def sessionPath (library : Library) (slot : String) : String :=
  Files.join library.saves (slug slot ++ ".json")

/-! ## Reading and writing files -/

/-- Name the path of a failed access. -/
def accessing {α : Type} (path : String) : Except Files.FileError α → Except LibraryError α
  | .ok value => .ok value
  | .error error => .error (.access path error)

/-- Name the path of a document that is refused, and the place if the parser has come
upon the fault at one. -/
def decoding {α : Type} (library : Library) (wanted : Wanted) (path text : String) :
    Except DecodeFault α → Except LibraryError α
  | .ok value => .ok value
  | .error fault =>
    .error (.document path fault (if fault.isPlaced then library.marker wanted text else none))

/-- Read a script's file. -/
def readScript (tree : Tree) (path : String) : Except LibraryError Story := do
  let text ← accessing path (tree.read path)
  match Story.ofScript text with
  | .ok story => .ok story
  | .error fault => .error (.script path fault)

/-- Read a story's file. -/
def readStory (library : Library) (tree : Tree) (path : String) :
    StoryFormat → Except LibraryError Story
  | .script => readScript tree path
  | .document => do
    let text ← accessing path (tree.read path)
    library.decoding .story path text (Story.ofJson text)

/-- Read a saved session's file. -/
def readSession (library : Library) (tree : Tree) (path : String) :
    Except LibraryError Session := do
  let text ← accessing path (tree.read path)
  library.decoding .session path text (Session.ofJson text)

/-- Write a file, and make the directory that holds it. -/
def writing (tree : Tree) (path text : String) : Except LibraryError Unit × Tree :=
  let made : Except LibraryError Unit × Tree :=
    match Files.parent? path with
    | none => (.ok (), tree)
    | some above => (tree.makingDirectories (Files.ancestors above)).map (accessing above) id
  Tree.andThen made fun _ tree =>
    tree.stepOf (accessing path (tree.write path (.text text)))

/-- The tree in which the file has been written. -/
def writeFile (tree : Tree) (path text : String) : Except LibraryError Tree :=
  Tree.leftBy (writing tree path text)

/-- Remove files. -/
def removing (tree : Tree) : List String → Except LibraryError Unit × Tree
  | [] => (.ok (), tree)
  | path :: paths =>
    Tree.andThen (tree.stepOf (accessing path (tree.remove path))) fun _ left =>
      removing left paths

/-! ## Stories -/

/-- Open a story by its title or by its file's stem.  A script is looked for
before a document. -/
def openStory (library : Library) (tree : Tree) (name : String) : Except LibraryError Story :=
  match StoryFormat.all.find? fun format => tree.isFile (library.storyPath name format) with
  | some format => library.readStory tree (library.storyPath name format) format
  | none => .error (.notFound .story name)

/-- The story that a file for the slug of the title holds, if there is such a
file and it can be read. -/
def existing? (library : Library) (tree : Tree) (title : String) (format : StoryFormat) :
    Option Story :=
  let path := library.storyPath title format
  if tree.isFile path then (library.readStory tree path format).toOption else none

/-- Refuse when a file for the slug of the title holds a story with another
title. -/
def checkTitle (library : Library) (tree : Tree) (title : String) :
    List StoryFormat → Except LibraryError Unit
  | [] => .ok ()
  | format :: formats =>
    match library.existing? tree title format with
    | none => checkTitle library tree title formats
    | some story =>
      if story.title = title then checkTitle library tree title formats
      else .error (.otherTitle (library.storyPath title format) story.title title)

/-- The other forms in which there is a file for the slug of the title. -/
def stale (library : Library) (tree : Tree) (title : String) (format : StoryFormat) :
    List StoryFormat :=
  StoryFormat.all.filter fun form => form ≠ format && tree.isFile (library.storyPath title form)

/-- Save a story in the given form, and remove the file of the other form that was
there before.  The path written is returned. -/
def savingStory (library : Library) (tree : Tree) (story : Story) (format : StoryFormat) :
    Except LibraryError String × Tree :=
  Tree.andThen (checkTitle library tree story.title StoryFormat.all, tree) fun _ tree =>
    let path := library.storyPath story.title format
    let stale := (library.stale tree story.title format).map (library.storyPath story.title)
    Tree.andThen (writing tree path (format.write story)) fun _ written =>
      Tree.andThen (removing written stale) fun _ left => (.ok path, left)

/-! ## Sessions -/

/-- Save a session in a slot.  The path written is returned. -/
def savingSession (library : Library) (tree : Tree) (slot : String) (session : Session) :
    Except LibraryError String × Tree :=
  let path := library.sessionPath slot
  Tree.andThen (writing tree path session.toJson) fun _ left => (.ok path, left)

/-- The path of a session that has been saved, and the tree in which it is. -/
def saveSession (library : Library) (tree : Tree) (slot : String) (session : Session) :
    Except LibraryError (String × Tree) :=
  Tree.settled (library.savingSession tree slot session)

def loadSession (library : Library) (tree : Tree) (slot : String) : Except LibraryError Session :=
  let path := library.sessionPath slot
  if tree.isFile path then library.readSession tree path else .error (.notFound .session slot)

/-! ## Listings -/

/-- The status of a file that was read. -/
def statusOf {α β : Type} (f : α → β) : Except LibraryError α → Status β
  | .ok value => .ready (f value)
  | .error error => .corrupted error.brief

/-- The files of a directory, with the times of their changes.  A directory that is
missing has no files. -/
def filesOf (tree : Tree) (directory : String) :
    Except LibraryError (List (Files.Name × Files.Time)) :=
  if tree.hasPath directory then do
    let entries ← accessing directory (tree.list directory)
    .ok (entries.filterMap fun (name, node) =>
      match node with
      | .file _ changed => some (name, changed)
      | .directory => none)
  else .ok []

/-- The entry of a file, if its extension is that of a story and its name is text. -/
def listedStory? (library : Library) (tree : Tree) (file : Files.Name × Files.Time) :
    Option StoryEntry := do
  let format ← file.1.extension?.bind StoryFormat.ofExtension?
  let name ← file.1.stem?
  let path ← file.1.pathIn? library.stories
  return {
    name, path, format
    changed := file.2
    status := statusOf Report.ofStory (library.readStory tree path format) }

/-- The order of stories in the listing: by name, and then by path. -/
def storiesInOrder (a b : StoryEntry) : Bool :=
  a.name < b.name || (a.name = b.name && a.path ≤ b.path)

/-- The stories of the library.  A file that cannot be read is listed too. -/
def listStories (library : Library) (tree : Tree) : Except LibraryError (List StoryEntry) := do
  let files ← filesOf tree library.stories
  .ok ((files.filterMap (library.listedStory? tree)).mergeSort storiesInOrder)

/-- The entry of a file, if its extension is that of a saved session and its name is
text. -/
def listedSession? (library : Library) (tree : Tree) (file : Files.Name × Files.Time) :
    Option SessionEntry := do
  guard (file.1.extension? = some "json")
  let slot ← file.1.stem?
  let path ← file.1.pathIn? library.saves
  return {
    slot, path
    changed := file.2
    status := statusOf Session.summary (library.readSession tree path) }

/-- The order of saved sessions in the listing: the last changed first, and then
by slot. -/
def sessionsInOrder (a b : SessionEntry) : Bool :=
  a.changed.isAfter b.changed || (a.changed = b.changed && a.slot ≤ b.slot)

/-- The saved sessions.  A file that cannot be read is listed too. -/
def listSessions (library : Library) (tree : Tree) : Except LibraryError (List SessionEntry) := do
  let files ← filesOf tree library.saves
  .ok ((files.filterMap (library.listedSession? tree)).mergeSort sessionsInOrder)

end Library

/-! ## Ages -/

/-- A rough age of a change that was made the given number of seconds ago. -/
def ageText (seconds : Int) : String :=
  if seconds < 0 then "in the future"
  else if seconds < 60 then "just now"
  else if seconds < 3600 then Text.decimal (seconds / 60) ++ "m ago"
  else if seconds < 86400 then Text.decimal (seconds / 3600) ++ "h ago"
  else Text.decimal (seconds / 86400) ++ "d ago"

end Gamebook
