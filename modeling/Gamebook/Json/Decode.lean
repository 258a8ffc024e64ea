import Gamebook.Json.Problem
import Gamebook.Json.Reading
import Gamebook.Number.Shortest
import Gamebook.Text.Quoted

namespace Gamebook
namespace Json

/-!
# Taking values out of a reading

A decoder takes one kind of value out of a reading, or says why the reading
does not hold it.  A text is looked at from its start, so of several problems
the first in the text is the one reported; a missing field is reported last.
-/

/-- A decoder of values of type `α`, with refusals of type `ρ`. -/
abbrev Decoder (ρ α : Type) := Reading → Except (Problem ρ) α

variable {ρ α : Type}

/-- How a number is named in a message. -/
def Numeral.shown : Numeral → String
  | .whole value => "integer \x60" ++ Text.decimal value ++ "\x60"
  | .real negative magnitude =>
    "floating point \x60" ++ (if negative then "-" else "") ++
      String.ofList magnitude.text ++ "\x60"

/-- How a value is named in a message, unless it cannot be read. -/
def Reading.shown : Reading → Except Fault String
  | .null => .ok "null"
  | .bool value => .ok (if value then "boolean \x60true\x60" else "boolean \x60false\x60")
  | .number value => .ok value.shown
  | .string value => .ok ("string " ++ String.ofList (Text.quoted value.toList))
  | .array _ _ => .ok "sequence"
  | .object _ _ => .ok "map"
  | .strayKey _ => .ok "map"
  | .unread fault => .error fault
  | .malformed fault => .error fault

/-- The problem of finding this reading where something else is expected. -/
def Reading.mismatch (reading : Reading) (expected : String) : Problem ρ :=
  match reading.shown with
  | .ok found => .wrongType found expected
  | .error fault => .fault fault

/-- Stop at a fault, if there is one. -/
def refuseFault : Option Fault → Except (Problem ρ) Unit
  | none => .ok ()
  | some fault => .error (.fault fault)

/-- The fault that a reader who asks for another item meets. -/
def ListEnd.next? : ListEnd → Option Fault
  | .closed => none
  | .faulty next _ => some next

/-- The fault that a reader who wants no more items meets. -/
def ListEnd.last? : ListEnd → Option Fault
  | .closed => none
  | .faulty _ last => some last

namespace Decode

def string : Decoder ρ String
  | .string value => .ok value
  | reading => .error (reading.mismatch "a string")

/-- Take a truth value. -/
def bool : Decoder ρ Bool
  | .bool value => .ok value
  | reading => .error (reading.mismatch "a boolean")

/-- The greatest unsigned 32-bit number. -/
def greatest32 : Nat := 4294967295

/-- Take an unsigned 32-bit number. -/
def word32 : Decoder ρ Nat
  | .number (.whole value) =>
    if 0 ≤ value ∧ value ≤ greatest32 then .ok value.toNat
    else .error (.wrongValue (Numeral.whole value).shown "u32")
  | reading => .error (reading.mismatch "u32")

def items (item : Decoder ρ α) : List Reading → Except (Problem ρ) (List α)
  | [] => .ok []
  | reading :: readings => do
    let value ← item reading
    .ok (value :: (← items item readings))

def list (item : Decoder ρ α) : Decoder ρ (List α)
  | .array readings ending => do
    let values ← items item readings
    refuseFault ending.next?
    .ok values
  | reading => .error (reading.mismatch "a sequence")

def members (value : Decoder ρ α) :
    List (String × Reading) → Except (Problem ρ) (List (String × α))
  | [] => .ok []
  | (key, reading) :: readings => do
    let taken ← value reading
    .ok ((key, taken) :: (← members value readings))

/-- Take an object whose keys are free.  The members are given as they are
written, duplicate keys included. -/
def map (value : Decoder ρ α) : Decoder ρ (List (String × α))
  | .object readings fault => do
    let values ← members value readings
    refuseFault fault
    .ok values
  | .strayKey _ => .error (.fault .keyNotString)
  | reading => .error (reading.mismatch "a map")

/-! ## Records -/

/-- The name and the fields of a record.  A record is written as an object with
these fields as members, or as the list of their values. -/
structure Shape where
  name : String
  fields : List String
  deriving Repr

/-- What is expected where a record should stand. -/
def Shape.expected (shape : Shape) : String := "struct " ++ shape.name

/-- What is expected where the list of a record's values is too short. -/
def Shape.expectedLength (shape : Shape) : String :=
  shape.expected ++ " with " ++ Text.decimal shape.fields.length ++ " elements"

/-- The fields that a text gives, in its order, up to the first thing that is
wrong with the record as such. -/
structure Listing (ρ : Type) where
  shape : Shape
  named : Bool
  given : List (String × Reading)
  stop : Option (Problem ρ)
  deriving Repr

/-- The members that come before the first unknown or repeated one, and the
problem with that one.  `seen` holds the fields given so far. -/
def knownMembers (shape : Shape) (seen : List String) (fault : Option Fault) :
    List (String × Reading) → List (String × Reading) × Option (Problem ρ)
  | [] => ([], fault.map .fault)
  | (key, reading) :: readings =>
    if !shape.fields.contains key then ([], some (.unknownField key shape.fields))
    else if seen.contains key then ([], some (.duplicateField key))
    else
      let (given, stop) := knownMembers shape (key :: seen) fault readings
      ((key, reading) :: given, stop)

/-- What is wrong with a list that gives a record's values, as far as its length
and its ending go. -/
def endOfValues (shape : Shape) (readings : List Reading) (ending : ListEnd) : Option Fault :=
  if readings.length < shape.fields.length then ending.next?
  else if shape.fields.length < readings.length then some .trailingCharacters
  else ending.last?

def listing (shape : Shape) : Reading → Except (Problem ρ) (Listing ρ)
  | .object readings fault =>
    let (given, stop) := knownMembers shape [] fault readings
    .ok { shape, named := true, given, stop }
  | .strayKey _ => .error (.fault .keyNotString)
  | .array readings ending =>
    .ok
      { shape
        named := false
        given := shape.fields.zip readings
        stop := (endOfValues shape readings ending).map .fault }
  | reading => .error (reading.mismatch shape.expected)

namespace Listing

/-- Put the given fields into a record that is empty at first, in their order. -/
def putAll {σ : Type} (put : String → Reading → σ → Except (Problem ρ) σ) :
    List (String × Reading) → σ → Except (Problem ρ) σ
  | [], state => .ok state
  | (field, reading) :: more, state => do putAll put more (← put field reading state)

/-- Put the given fields into a record that is empty at first, and then stop at
the problem of the listing, if it has one. -/
def collect {σ : Type} (listing : Listing ρ) (empty : σ)
    (put : String → Reading → σ → Except (Problem ρ) σ) : Except (Problem ρ) σ := do
  let state ← putAll put listing.given empty
  match listing.stop with
  | none => .ok state
  | some problem => .error problem

/-- The value of a field that must be given. -/
def require (listing : Listing ρ) (field : String) : Option α → Except (Problem ρ) α
  | some value => .ok value
  | none =>
    if listing.named then .error (.missingField field)
    else
      .error
        (.wrongLength (listing.shape.fields.idxOf field) listing.shape.expectedLength)

end Listing

end Decode

/-- Decode a text.  Nothing but blanks may follow the value. -/
def decode (decoder : Decoder ρ α) (text : String) : Except (Problem ρ) α := do
  let document := Document.ofText text
  let value ← decoder document.root
  if document.more then .error (.fault .trailingCharacters) else .ok value

end Json
end Gamebook
