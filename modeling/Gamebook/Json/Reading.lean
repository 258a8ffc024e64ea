import Gamebook.Json.Token

namespace Gamebook
namespace Json

/-!
# What a text holds

A reading is the tree that a text writes, up to its first fault.  A text is
checked against what is wanted of it from its start, so a wrong member is
reported even where the text breaks off behind it.  Therefore a fault does not
void the reading: it stands in the tree at the place where it is met.

The open containers are kept as a list of frames, and the tokens are read one
by one from the place that the last of them led to.
-/

/-- How a list ends.  A list that is not closed has a fault for a reader that
asks for another item, and one for a reader that wants no more of them. -/
inductive ListEnd
  | closed
  | faulty (next last : Fault)
  deriving DecidableEq, Repr

/-- The tree of a text.  An `unread` value is one that the text does not reach
or a string that is not well written, and a `malformed` one is any other value
that is not well written.  An object that opens with something other than a
string is a `strayKey`. -/
inductive Reading
  | null
  | bool (value : Bool)
  | number (value : Numeral)
  | string (value : String)
  | array (items : List Reading) (ending : ListEnd)
  | object (members : List (String × Reading)) (fault : Option Fault)
  | strayKey (found : Reading)
  | unread (fault : Fault)
  | malformed (fault : Fault)
  deriving Repr

/-- A text's tree, and whether more text follows it. -/
structure Document where
  root : Reading
  more : Bool
  deriving Repr

/-- A container that waits for a value: a list for its next item, or an object
for the value of a key.  What it holds so far stands in reverse order. -/
inductive Frame
  | list (items : List Reading)
  | object (members : List (String × Reading)) (key : String)
  deriving Repr

/-- The place between two tokens.  The lists hold what the innermost container
has so far, in reverse order. -/
inductive Place
  | value
  | firstItem
  | nextItem (items : List Reading)
  | afterItem (items : List Reading)
  | firstKey
  | nextKey (members : List (String × Reading))
  | colon (members : List (String × Reading)) (key : String)
  | afterMember (members : List (String × Reading))
  | finished (root : Reading)
  deriving Repr

/-- The tree when its innermost value is the last that can be read.  Nothing
looks behind a fault, so the containers end with that fault. -/
def breakOff (fault : Fault) : List Frame → Reading → Reading
  | [], reading => reading
  | .list items :: frames, reading =>
    breakOff fault frames (.array (reading :: items).reverse (.faulty fault fault))
  | .object members key :: frames, reading =>
    breakOff fault frames (.object ((key, reading) :: members).reverse (some fault))

/-- The place after a value has been read, and the frames that stay open. -/
def deliver (reading : Reading) : List Frame → Place × List Frame
  | [] => (.finished reading, [])
  | .list items :: frames => (.afterItem (reading :: items), frames)
  | .object members key :: frames => (.afterMember ((key, reading) :: members), frames)

/-- Containers may be nested to this depth. -/
def greatestDepth : Nat := 127

/-- The value that a token starts, as far as the token alone tells. -/
def Token.opening : Token → Reading
  | .openBracket => .array [] .closed
  | .openBrace => .object [] none
  | .null => .null
  | .bool value => .bool value
  | .number value => .number value
  | .string value => .string value
  | .brokenString fault => .unread fault
  | .broken fault => .malformed fault
  | .closeBracket | .closeBrace | .colon | .comma => .malformed .expectedValue

/-- What one token leads to: a new place with the open frames, or the whole
tree when the token is the last that matters. -/
inductive Step
  | go (place : Place) (frames : List Frame)
  | stop (root : Reading)
  deriving Repr

def stopObject (frames : List Frame) (members : List (String × Reading)) (fault : Fault) : Step :=
  .stop (breakOff fault frames (.object members.reverse (some fault)))

def stopList (frames : List Frame) (items : List Reading) (next last : Fault) : Step :=
  .stop (breakOff next frames (.array items.reverse (.faulty next last)))

def stepValue (frames : List Frame) (token : Token) : Step :=
  match token with
  | .openBracket =>
    if frames.length < greatestDepth then .go .firstItem frames
    else .stop (breakOff .recursionLimit frames (.malformed .recursionLimit))
  | .openBrace =>
    if frames.length < greatestDepth then .go .firstKey frames
    else .stop (breakOff .recursionLimit frames (.malformed .recursionLimit))
  | .null | .bool _ | .number _ | .string _ =>
    let (place, frames) := deliver token.opening frames
    .go place frames
  | .brokenString fault | .broken fault => .stop (breakOff fault frames token.opening)
  | .closeBracket | .closeBrace | .colon | .comma =>
    .stop (breakOff .expectedValue frames token.opening)

def step (place : Place) (frames : List Frame) (token : Token) : Step :=
  match place with
  | .value => stepValue frames token
  | .firstItem =>
    match token with
    | .closeBracket =>
      let (place, frames) := deliver (.array [] .closed) frames
      .go place frames
    | token => stepValue (.list [] :: frames) token
  | .nextItem items =>
    match token with
    | .closeBracket => stopList frames items .trailingComma .trailingComma
    | token => stepValue (.list items :: frames) token
  | .afterItem items =>
    match token with
    | .closeBracket =>
      let (place, frames) := deliver (.array items.reverse .closed) frames
      .go place frames
    | .comma => .go (.nextItem items) frames
    | _ => stopList frames items .expectedListCommaOrEnd .trailingCharacters
  | .firstKey =>
    match token with
    | .closeBrace =>
      let (place, frames) := deliver (.object [] none) frames
      .go place frames
    | .string key => .go (.colon [] key) frames
    | .brokenString fault => stopObject frames [] fault
    | token => .stop (breakOff .keyNotString frames (.strayKey token.opening))
  | .nextKey members =>
    match token with
    | .closeBrace => stopObject frames members .trailingComma
    | .string key => .go (.colon members key) frames
    | .brokenString fault => stopObject frames members fault
    | _ => stopObject frames members .keyNotString
  | .colon members key =>
    match token with
    | .colon => .go .value (.object members key :: frames)
    | _ => stopObject frames ((key, .unread .expectedColon) :: members) .expectedColon
  | .afterMember members =>
    match token with
    | .closeBrace =>
      let (place, frames) := deliver (.object members.reverse none) frames
      .go place frames
    | .comma => .go (.nextKey members) frames
    | _ => stopObject frames members .expectedObjectCommaOrEnd
  | .finished root => .stop root

def atEnd (place : Place) (frames : List Frame) : Reading :=
  match place with
  | .value => breakOff .endInValue frames (.unread .endInValue)
  | .firstItem => breakOff .endInList frames (.array [] (.faulty .endInList .endInList))
  | .nextItem items =>
    breakOff .endInValue frames (.array items.reverse (.faulty .endInValue .trailingCharacters))
  | .afterItem items =>
    breakOff .endInList frames (.array items.reverse (.faulty .endInList .endInList))
  | .firstKey => breakOff .endInObject frames (.object [] (some .endInObject))
  | .nextKey members =>
    breakOff .endInValue frames (.object members.reverse (some .endInValue))
  | .colon members key =>
    breakOff .endInObject frames
      (.object ((key, .unread .endInObject) :: members).reverse (some .endInObject))
  | .afterMember members =>
    breakOff .endInObject frames (.object members.reverse (some .endInObject))
  | .finished root => root

/-- Says whether a token at this place comes after the whole tree. -/
def Place.isFinished : Place → Bool
  | .finished _ => true
  | _ => false

def run (place : Place) (frames : List Frame) : List Token → Document
  | [] => ⟨atEnd place frames, false⟩
  | token :: tokens =>
    match step place frames token with
    | .go place frames => run place frames tokens
    | .stop root => ⟨root, place.isFinished⟩

def Document.ofText (text : String) : Document :=
  run .value [] (tokens text.toList)

end Json
end Gamebook
