import Gamebook.Files.Name
import Gamebook.Text.Size
import Gamebook.Ordered

namespace Gamebook
namespace Files

/-!
# A tree of files

The files that a program works on are a value.  A place is the list of names
that leads to a file or directory from the working directory; a place outside
it starts with the root or with steps upwards.  Every file has the time of its
last change, and a later write makes a later time.
-/

/-- What a file holds: text, or bytes that are not text. -/
inductive Content
  | text (text : String)
  | bytes (bytes : List UInt8)
  deriving DecidableEq, Repr

def Content.ofBytes (bytes : ByteArray) : Content :=
  match String.fromUTF8? bytes with
  | some decoded => .text decoded
  | none => .bytes bytes.toList

/-- When a file was changed: seconds before now, and the order among changes of
the same second. -/
structure Time where
  age : Int
  turn : Nat
  deriving DecidableEq, Repr

/-- Says whether the first time is later than the second. -/
def Time.isAfter (a b : Time) : Bool :=
  a.age < b.age || (a.age = b.age && b.turn < a.turn)

/-- A file or a directory. -/
inductive Node
  | directory
  | file (content : Content) (changed : Time)
  deriving DecidableEq, Repr

/-- Names that lead to a file or directory. -/
abbrev Place := List Name

/-- Everything but the working directory itself, in order of the places. -/
structure Tree where
  entries : List (Place × Node)
  turn : Nat
  deriving DecidableEq, Repr

/-- Why an operation on files fails. -/
inductive FileError
  | notFound
  | notDirectory
  | isDirectory
  | alreadyExists
  | nameTooLong
  | nulInName
  | notText
  deriving DecidableEq, Repr

/-- The wording of a failure. -/
def FileError.message : FileError → String
  | .notFound => "No such file or directory (os error 2)"
  | .notDirectory => "Not a directory (os error 20)"
  | .isDirectory => "Is a directory (os error 21)"
  | .alreadyExists => "File exists (os error 17)"
  | .nameTooLong => "File name too long (os error 36)"
  | .nulInName => "file name contained an unexpected NUL byte"
  | .notText => "stream did not contain valid UTF-8"

namespace Tree

/-- The tree without files. -/
def empty : Tree := ⟨[], 0⟩

/-- Says whether a place is the working directory, one above it, or the root. -/
def isFixed (place : Place) : Bool :=
  place.all fun name => name = ".." || name = "/"

def node? (tree : Tree) (place : Place) : Option Node :=
  if isFixed place then some .directory
  else (tree.entries.find? fun entry => entry.1 = place).map (·.2)

def put (tree : Tree) (place : Place) (node : Node) : Tree :=
  { tree with
    entries :=
      insertBy (·.1) (place, node) (tree.entries.filter fun entry => entry.1 ≠ place) }

def above (place : Place) : Place :=
  match place.getLast? with
  | none => [".."]
  | some (.text "..") => place ++ [.text ".."]
  | some (.text "/") => place
  | some _ => place.dropLast

/-- The greatest number of bytes in a name. -/
def longestName : Nat := 255

/-- Where a path leads, and whether it says that a directory is there. -/
structure Target where
  place : Place
  wantsDirectory : Bool
  deriving DecidableEq, Repr

/-- Walk along the segments of a path.  All but the last must name directories,
and so must one that stays in place or goes up. -/
def walk (tree : Tree) (place : Place) : List String → Except FileError Target
  | [] => .ok ⟨place, false⟩
  | name :: names =>
    match tree.node? place with
    | none =>
      if (name :: names).all String.isEmpty then .ok ⟨place, true⟩ else .error .notFound
    | some (.file _ _) => .error .notDirectory
    | some .directory =>
      if isIdle name then walk tree place names
      else if name = ".." then walk tree (above place) names
      else if longestName < Text.byteLength name.toList then .error .nameTooLong
      else walk tree (place ++ [.text name]) names

/-- Where a path leads. -/
def locate (tree : Tree) (path : String) : Except FileError Target :=
  if path.isEmpty then .error .notFound
  else if path.toList.contains '\x00' then .error .nulInName
  else if isAbsolute path then walk tree ["/"] (segments path)
  else walk tree [] (segments path)

def find (tree : Tree) (path : String) : Except FileError Node := do
  let target ← tree.locate path
  match tree.node? target.place with
  | some node => .ok node
  | none => .error .notFound

/-- Says whether there is a file or directory at the path. -/
def hasPath (tree : Tree) (path : String) : Bool :=
  match tree.find path with
  | .ok _ => true
  | .error _ => false

def isFile (tree : Tree) (path : String) : Bool :=
  match tree.find path with
  | .ok (.file _ _) => true
  | _ => false

def isDirectory (tree : Tree) (path : String) : Bool :=
  match tree.find path with
  | .ok .directory => true
  | _ => false

def read (tree : Tree) (path : String) : Except FileError String := do
  match ← tree.find path with
  | .directory => .error .isDirectory
  | .file (.bytes _) _ => .error .notText
  | .file (.text text) _ => .ok text

/-- The tree after a file has been written whole. -/
def write (tree : Tree) (path : String) (content : Content) : Except FileError Tree := do
  let target ← tree.locate path
  let turn := tree.turn + 1
  let written := { tree with turn }.put target.place (.file content ⟨0, turn⟩)
  match tree.node? target.place with
  | some .directory => .error .isDirectory
  | some (.file _ _) => .ok written
  | none => if target.wantsDirectory then .error .isDirectory else .ok written

def remove (tree : Tree) (path : String) : Except FileError Tree := do
  let target ← tree.locate path
  match tree.node? target.place with
  | none => .error .notFound
  | some .directory => .error .isDirectory
  | some (.file _ _) =>
    .ok { tree with entries := tree.entries.filter fun entry => entry.1 ≠ target.place }

def makeDirectory (tree : Tree) (path : String) : Except FileError Tree := do
  let target ← tree.locate path
  match tree.node? target.place with
  | some _ => .error .alreadyExists
  | none => .ok (tree.put target.place .directory)

/-! ## Operations that take steps

An operation of several steps may fail after some of them, and what they changed
stays.  So it gives a result and the tree that it leaves, also when it fails. -/

/-- A single step changes nothing when it fails. -/
def stepOf {ε : Type} (tree : Tree) : Except ε Tree → Except ε Unit × Tree
  | .ok after => (.ok (), after)
  | .error error => (.error error, tree)

/-- Go on with the tree that is left, unless the operation has failed. -/
def andThen {ε α β : Type} (done : Except ε α × Tree) (next : α → Tree → Except ε β × Tree) :
    Except ε β × Tree :=
  match done with
  | (.ok value, left) => next value left
  | (.error error, left) => (.error error, left)

/-- What an operation gives and leaves, if it succeeds. -/
def settled {ε α : Type} : Except ε α × Tree → Except ε (α × Tree)
  | (.ok value, left) => .ok (value, left)
  | (.error error, _) => .error error

/-- The tree that an operation leaves, if it succeeds. -/
def leftBy {ε : Type} (done : Except ε Unit × Tree) : Except ε Tree :=
  (settled done).map Prod.snd

section

variable {ε α β : Type} {done : Except ε α × Tree} {next : α → Tree → Except ε β × Tree}

theorem stepOf_eq_ok_iff {tree after : Tree} {step : Except ε Tree} :
    tree.stepOf step = (.ok (), after) ↔ step = .ok after := by
  cases step with
  | ok made => simp [stepOf]
  | error error => simp [stepOf]

theorem stepOf_eq_error_iff {tree after : Tree} {step : Except ε Tree} {error : ε} :
    tree.stepOf step = (.error error, after) ↔ step = .error error ∧ tree = after := by
  cases step with
  | ok made => simp [stepOf]
  | error error => simp [stepOf]

theorem andThen_eq_ok_iff {value : β} {after : Tree} :
    andThen done next = (.ok value, after) ↔
      ∃ between left, done = (.ok between, left) ∧ next between left = (.ok value, after) := by
  constructor
  · intro both
    rcases done with ⟨error | between, left⟩
    · cases both
    · exact ⟨between, left, rfl, both⟩
  · rintro ⟨between, left, rfl, last⟩
    exact last

theorem andThen_eq_error_iff {error : ε} {after : Tree} :
    andThen done next = (.error error, after) ↔
      done = (.error error, after) ∨
        ∃ between left, done = (.ok between, left) ∧ next between left = (.error error, after) := by
  constructor
  · intro failed
    rcases done with ⟨_ | between, left⟩
    · cases failed
      exact .inl rfl
    · exact .inr ⟨between, left, rfl, failed⟩
  · rintro (rfl | ⟨between, left, rfl, last⟩)
    · rfl
    · exact last

theorem settled_eq_ok_iff {value : α} {after : Tree} :
    settled done = .ok (value, after) ↔ done = (.ok value, after) := by
  rcases done with ⟨_ | found, left⟩ <;> simp [settled]

theorem leftBy_eq_ok_iff {done : Except ε Unit × Tree} {after : Tree} :
    leftBy done = .ok after ↔ done = (.ok (), after) := by
  rcases done with ⟨_ | found, left⟩ <;> simp [leftBy, settled, Except.map]

end

/-- Make the first of the paths a directory.  The others are the paths above it;
each of them that is missing is made too. -/
def makingDirectories (tree : Tree) : List String → Except FileError Unit × Tree
  | [] => (.ok (), tree)
  | path :: above =>
    if path.isEmpty then (.ok (), tree)
    else
      match tree.makeDirectory path with
      | .ok made => (.ok (), made)
      | .error .notFound =>
        andThen (makingDirectories tree above) fun _ tree =>
          match tree.makeDirectory path with
          | .ok made => (.ok (), made)
          | .error error => (if tree.isDirectory path then .ok () else .error error, tree)
      | .error error => (if tree.isDirectory path then .ok () else .error error, tree)

/-- The tree in which the directories have been made. -/
def makeDirectories (tree : Tree) (paths : List String) : Except FileError Tree :=
  leftBy (tree.makingDirectories paths)

/-- The names in a directory, with what they name. -/
def list (tree : Tree) (path : String) : Except FileError (List (Name × Node)) := do
  let target ← tree.locate path
  match tree.node? target.place with
  | none => .error .notFound
  | some (.file _ _) => .error .notDirectory
  | some .directory =>
    .ok (tree.entries.filterMap fun (place, node) =>
      match place.getLast? with
      | some name => if place.dropLast = target.place then some (name, node) else none
      | none => none)

/-! ## Given files

A tree is built from files that are given with their paths.  Their places need
no tree to be found, since every step of their paths is taken as it is written. -/

/-- The place to which a path leads when all of its steps are directories. -/
def placeOf (path : String) : Place :=
  (segments path).foldl
    (fun place name =>
      if isIdle name then place
      else if name = ".." then above place
      else place ++ [.text name])
    (if isAbsolute path then ["/"] else [])

/-- The path to a place, if all names on the way are text. -/
def pathOf? (place : Place) : Option String :=
  (place.mapM Name.text?).map fun names =>
    match names with
    | "/" :: names => "/" ++ ofSegments names
    | names => ofSegments names

/-- The tree with a directory, and with the directories above it. -/
def addPlace (tree : Tree) (place : Place) : Tree :=
  ((List.range (place.length + 1)).map place.take).foldl
    (fun tree place => if isFixed place then tree else tree.put place .directory) tree

/-- The tree with a directory, and with the directories above it. -/
def addDirectory (tree : Tree) (path : String) : Tree :=
  tree.addPlace (placeOf path)

/-- The tree with a file of a given age, and with the directories above it. -/
def add (tree : Tree) (path : String) (content : Content) (age : Int) : Tree :=
  let place := placeOf path
  (tree.addPlace (above place)).put place (.file content ⟨age, tree.turn⟩)

/-- The files below the working directory, with their paths. -/
def files (tree : Tree) : List (String × Content) :=
  tree.entries.filterMap fun (place, node) =>
    match node with
    | .file content _ =>
      if isFixed (place.take 1) then none else (pathOf? place).map fun path => (path, content)
    | .directory => none

/-- What the tree has and the other has not, with its paths. -/
def beyond (tree other : Tree) : List (String × Node) :=
  (tree.entries.filter fun entry => !other.entries.contains entry).filterMap fun (place, node) =>
    (pathOf? place).map fun path => (path, node)

end Tree

end Files
end Gamebook
