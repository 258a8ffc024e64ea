import Gamebook.Limits
import Gamebook.Ordered
import Gamebook.Text.Quoted

namespace Gamebook

/-!
# Tagged payloads

Actions and goals are written as objects with a single member, such as a
member named `healthChange` with the text `-10`, or one named `mandatoryItems`
with a list of names.  The tag picks the rule by which the loosely typed
payload is read.
-/

/-- The value that stands under a tag. -/
inductive Payload
  | number (value : Int)
  | text (value : String)
  | items (names : List String)
  deriving DecidableEq, Repr

/-- Why a tagged action or goal could not be made.  A `family` is the word for
what was wanted, an action or a goal. -/
inductive TagError
  | unknownTag (family tag : String)
  | invalidPayload (tag payload reason : String)
  | tagCount (family : String) (count : Nat)
  | invalid (violation : Violation)
  deriving DecidableEq, Repr

/-- The wording of a refusal. -/
def TagError.message : TagError → String
  | .unknownTag family tag => "unknown " ++ family ++ " tag '" ++ tag ++ "'"
  | .invalidPayload tag payload reason =>
    "invalid payload '" ++ payload ++ "' for '" ++ tag ++ "': " ++ reason
  | .tagCount family count =>
    family ++ " object must have exactly one tag, found " ++ Text.decimal count
  | .invalid violation => violation.message

namespace Payload

/-- A list payload as a message shows it. -/
def shown (names : List String) : String :=
  String.ofList (Text.quotedList (names.map String.toList))

/-- Read the payload as a signed 64-bit number.  A text is trimmed first, and
a refusal shows it untrimmed. -/
def asInteger (tag : String) : Payload → Except TagError Int
  | .number value => .ok value
  | .text value =>
    match Text.readNumeral .int64 (Text.trim value.toList) with
    | .ok integer => .ok integer
    | .error reason => .error (.invalidPayload tag value reason.message)
  | .items names =>
    .error (.invalidPayload tag (shown names) "expected an integer, found a list")

/-- Read the payload as one text.  A number stands for its decimal text. -/
def asText (tag : String) : Payload → Except TagError String
  | .number value => .ok (Text.decimal value)
  | .text value => .ok value
  | .items names =>
    .error (.invalidPayload tag (shown names) "expected a single value, found a list")

/-- Read the payload as a list of names.  A text stands for the list of itself. -/
def asItems (tag : String) : Payload → Except TagError (List String)
  | .number value =>
    .error (.invalidPayload tag (Text.decimal value) "expected a list of items")
  | .text value => .ok [value]
  | .items names => .ok names

/-- The decimal text of a signed 64-bit number is read as the number. -/
theorem asInteger_decimal (tag : String) {value : Int}
    (least : Text.NumeralRange.int64.least ≤ value) (most : value ≤ Text.NumeralRange.int64.most) :
    (text (Text.decimal value)).asInteger tag = .ok value := by
  simp only [asInteger, Text.readNumeral_trim_decimal least most]

end Payload

/-- The written form of an action or a goal: members by tag, in ascending order
of their tags.  A well-made one has a single member. -/
structure TaggedEntry where
  members : List (String × Payload)
  deriving DecidableEq, Repr

namespace TaggedEntry

def single (tag : String) (payload : Payload) : TaggedEntry :=
  ⟨[(tag, payload)]⟩

/-- The entry that written members make.  A tag that is written twice keeps its
last payload. -/
def ofWritten (members : List (String × Payload)) : TaggedEntry :=
  ⟨ascendingBy (·.1) members⟩

def only (family : String) (entry : TaggedEntry) : Except TagError (String × Payload) :=
  match entry.members with
  | [member] => .ok member
  | members => .error (.tagCount family members.length)

theorem only_single (family tag : String) (payload : Payload) :
    (single tag payload).only family = .ok (tag, payload) := rfl

end TaggedEntry

end Gamebook
