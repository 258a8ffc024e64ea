import Gamebook.Goal
import Gamebook.Json.Decode
import Gamebook.Json.Value

namespace Gamebook

/-!
# Actions and goals in documents

An action or a goal is an object with one member.  A payload is a whole number
of 64 bits with a sign, a string, or a list of strings.
-/

/-- Why a value of the right shape is refused.  The rule may be broken by a part
of the document, which has a place in the text, or by the whole of it. -/
inductive Refusal
  | tag (error : TagError)
  | violation (violation : Violation)
  | whole (violation : Violation)
  deriving DecidableEq, Repr

def Refusal.message : Refusal → String
  | .tag error => error.message
  | .violation broken => broken.message
  | .whole broken => broken.message

/-- Why a document does not hold what was wanted. -/
abbrev Problem := Json.Problem Refusal

def Problem.wording (problem : Problem) : String :=
  problem.message Refusal.message

/-- A decoder of a document's values. -/
abbrev Decoder (α : Type) := Json.Decoder Refusal α

namespace Document

open Json (Value Reading)

/-- Refuse a value that breaks a rule. -/
def obeying {α : Type} : Except Violation α → Except Problem α
  | .ok value => .ok value
  | .error violation => .error (.refused (.violation violation))

/-- Refuse a tag or payload that means nothing. -/
def meaning {α : Type} : Except TagError α → Except Problem α
  | .ok value => .ok value
  | .error error => .error (.refused (.tag error))

/-! ## Payloads -/

def ofPayload : Payload → Value
  | .number value => .integer value
  | .text value => .string value
  | .items names => .array (names.map .string)

mutual

/-- The first fault of a value that is read whole before it is looked at. -/
def firstFault : Reading → Option Json.Fault
  | .array items ending => (firstFaultOfItems items).or ending.next?
  | .object members fault => (firstFaultOfMembers members).or fault
  | .strayKey _ => some .keyNotString
  | .unread fault => some fault
  | .malformed fault => some fault
  | .null | .bool _ | .number _ | .string _ => none

def firstFaultOfItems : List Reading → Option Json.Fault
  | [] => none
  | item :: items => (firstFault item).or (firstFaultOfItems items)

def firstFaultOfMembers : List (String × Reading) → Option Json.Fault
  | [] => none
  | (_, value) :: members => (firstFault value).or (firstFaultOfMembers members)

end

def strings? : List Reading → Option (List String)
  | [] => some []
  | .string value :: items => (strings? items).map (value :: ·)
  | _ :: _ => none

/-- The payload that a value without faults is. -/
def payload? : Reading → Option Payload
  | .number (.whole value) =>
    match Text.NumeralRange.int64.fit value with
    | .ok value => some (.number value)
    | .error _ => none
  | .string value => some (.text value)
  | .array items _ => (strings? items).map .items
  | _ => none

/-- Take a payload.  The whole value is read before its kind is decided. -/
def takePayload : Decoder Payload := fun reading => do
  Json.refuseFault (firstFault reading)
  match payload? reading with
  | some payload => .ok payload
  | none => .error (.noVariant "Payload")

/-! ## Tagged entries -/

def ofEntry (entry : TaggedEntry) : Value :=
  .object (entry.members.map fun (tag, payload) => (tag, ofPayload payload))

/-- Take an entry.  A tag that is written twice keeps its last payload. -/
def takeEntry : Decoder TaggedEntry := fun reading => do
  .ok (.ofWritten (← Json.Decode.map takePayload reading))

def ofAction (action : Action) : Value := ofEntry action.toEntry

def takeAction : Decoder Action := fun reading => do
  meaning (Action.ofEntry (← takeEntry reading))

def ofGoal (goal : Goal) : Value := ofEntry goal.toEntry

def takeGoal : Decoder Goal := fun reading => do
  meaning (Goal.ofEntry (← takeEntry reading))

end Document

end Gamebook
