import Gamebook.Tag

namespace Gamebook
namespace Script

/-!
# Faults of a script

A script is refused at a line, which is counted from one.
-/

/-- What a malformed line should have been. -/
inductive Malformation
  | titleNotAlone
  | notHeader
  | unknownMood
  | notLink
  | actionsWithoutLink
  | secondActions
  | actionsNotWrapped
  deriving DecidableEq, Repr

def Malformation.message : Malformation → String
  | .titleNotAlone => "expected a blank line after the story title"
  | .notHeader => "expected a passage header starting with '::'"
  | .unknownMood => "unknown mood"
  | .notLink => "expected a link of the form [text](ref)"
  | .actionsWithoutLink => "action line without a preceding link"
  | .secondActions => "a link takes at most one action line"
  | .actionsNotWrapped => "action line must be wrapped in '\x7b' and '\x7d'"

/-- Why a line is refused. -/
inductive Cause
  | missingTitle
  | missingOpening
  | missingContent (title : String)
  | malformed (reason : Malformation) (found : String)
  | action (error : TagError)
  | invalid (violation : Violation)
  | duplicatePassage (title : String)
  deriving DecidableEq, Repr

def Cause.message : Cause → String
  | .missingTitle => "missing story title"
  | .missingOpening => "story has no opening passage"
  | .missingContent title => "passage '" ++ title ++ "' is missing its content line"
  | .malformed reason found =>
    reason.message ++ ": " ++ String.ofList (Text.quoted found.toList)
  | .action error => error.message
  | .invalid violation => violation.message
  | .duplicatePassage title => "passage '" ++ title ++ "' is defined more than once"

/-- The refusal of a script: the line and the cause. -/
structure Fault where
  line : Nat
  cause : Cause
  deriving DecidableEq, Repr

/-- The wording of a refusal. -/
def Fault.message (fault : Fault) : String :=
  "line " ++ Text.decimal fault.line ++ ": " ++ fault.cause.message

end Script
end Gamebook
