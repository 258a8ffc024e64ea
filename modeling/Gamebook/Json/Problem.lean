import Gamebook.Json.Fault
import Gamebook.Text.Numeral
import Gamebook.Text.Lines

namespace Gamebook
namespace Json

/-!
# What can be wrong with a document

A document fails because its text is not JSON, because a value does not have
the wanted shape, or because a value of the right shape is refused by a rule of
the domain.  The type of refusals is a parameter.
-/

/-- Why a document does not hold what was wanted. -/
inductive Problem (ρ : Type)
  | fault (fault : Fault)
  | wrongType (found expected : String)
  | wrongValue (found expected : String)
  | wrongLength (length : Nat) (expected : String)
  | missingField (field : String)
  | unknownField (field : String) (known : List String)
  | duplicateField (field : String)
  | unknownVariant (variant : String) (known : List String)
  | noVariant (type : String)
  | refused (cause : ρ)
  deriving DecidableEq, Repr

/-- The broad kinds of problems. -/
inductive Kind
  | malformed
  | endsEarly
  | unsuitable
  deriving DecidableEq, Repr

namespace Problem

variable {ρ : Type}

/-- The broad kind of a problem.  A text that is JSON but does not hold what was
wanted is unsuitable. -/
def kind : Problem ρ → Kind
  | .fault cause => if cause.isEnd then .endsEarly else .malformed
  | _ => .unsuitable

/-- A name between backward quotation marks. -/
def named (name : String) : String := "\x60" ++ name ++ "\x60"

/-- Names between backward quotation marks, separated by commas. -/
def namedAll (names : List String) : String := ", ".intercalate (names.map named)

/-- The wording of a problem, where `say` words a refusal. -/
def message (say : ρ → String) : Problem ρ → String
  | .fault cause => cause.message
  | .wrongType found expected => "invalid type: " ++ found ++ ", expected " ++ expected
  | .wrongValue found expected => "invalid value: " ++ found ++ ", expected " ++ expected
  | .wrongLength length expected =>
    "invalid length " ++ Text.decimal length ++ ", expected " ++ expected
  | .missingField field => "missing field " ++ named field
  | .unknownField field known =>
    "unknown field " ++ named field ++ ", expected one of " ++ namedAll known
  | .duplicateField field => "duplicate field " ++ named field
  | .unknownVariant variant known =>
    "unknown variant " ++ named variant ++ ", expected one of " ++ namedAll known
  | .noVariant type => "data did not match any variant of untagged enum " ++ type
  | .refused cause => say cause

end Problem

end Json
end Gamebook
