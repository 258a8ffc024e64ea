import Gamebook.Files.Tree

namespace Gamebook
namespace CommandLine

/-!
# How a command ends

A command ends with a code, the text that it has printed, the text of its
complaints, and the files as it leaves them.
-/

/-- The end of a command. -/
structure Outcome where
  code : Nat := 0
  output : String := ""
  complaint : String := ""
  tree : Files.Tree
  deriving Repr

/-- The code of a command that has failed. -/
def failed : Nat := 1

/-- The code of a command that was not understood. -/
def misused : Nat := 2

/-- The end of a command that complains and changes nothing. -/
def Outcome.refusal (tree : Files.Tree) (code : Nat) (complaint : String) : Outcome :=
  { code, complaint := complaint ++ "\n", tree }

end CommandLine
end Gamebook
