import Gamebook.CommandLine.Outcome
import Gamebook.Library

namespace Gamebook
namespace CommandLine

/-!
# The command for scripts

The command checks a script, lays it out anew, or writes it for proofreading.
-/

namespace Scripts

/-- How the command is used. -/
def usage : String :=
  "Usage:\n  paths_script check <file.paths> [--deny-broken]\n" ++
    "  paths_script fmt <file.paths> [--out <out.paths>]\n" ++
    "  paths_script export <file.paths> [--out <out.txt>]"

/-- What the words after the command's name say. -/
structure Request where
  path : Option String := none
  out : Option String := none
  denyBroken : Bool := false
  deriving DecidableEq, Repr

/-- Read the words after the command's name, or complain.  The first word that is
no option is the path, and the last target counts. -/
def Request.read (request : Request) : List String → Except String Request
  | [] => .ok request
  | word :: words =>
    if word = "--out" then
      match words with
      | [] => .error "--out requires a filepath"
      | target :: words => read { request with out := some target } words
    else if word = "--deny-broken" then read { request with denyBroken := true } words
    else read { request with path := request.path.or (some word) } words

/-- The words with which a failure to read a script is announced. -/
def announce : LibraryError → String
  | .script path fault => "parse error: " ++ (LibraryError.script path fault).message
  | error => "error: " ++ error.message

/-- Read the words and the script, and go on with them. -/
def withStory (tree : Files.Tree) (words : List String)
    (next : Request → String → Story → Outcome) : Outcome :=
  match Request.read {} words with
  | .error complaint => .refusal tree misused complaint
  | .ok request =>
    match request.path with
    | none => .refusal tree misused usage
    | some path =>
      match Library.readScript tree path with
      | .error error => .refusal tree failed (announce error)
      | .ok story => next request path story

def check (tree : Files.Tree) (words : List String) : Outcome :=
  withStory tree words fun request path story =>
    let report := Report.ofStory story
    let broken := report.brokenLinks.length
    let summary :=
      path ++ ": '" ++ report.title ++ "' with " ++ Text.decimal report.passageCount ++
        " passage(s)\n"
    let findings := report.findings.map fun finding => "  - " ++ finding.message ++ "\n"
    let denied := request.denyBroken && 0 < broken
    { code := if denied then failed else 0
      output := summary ++ String.join findings
      complaint :=
        if denied then "check failed: " ++ Text.decimal broken ++ " broken link(s)\n" else ""
      tree }

/-- Write a story in some form, to a file or to the output. -/
def render (form : Story → String) (tree : Files.Tree) (words : List String) : Outcome :=
  withStory tree words fun request _ story =>
    match request.out with
    | none => { output := form story, tree }
    | some out =>
      match tree.write out (.text (form story)) with
      | .ok tree => { tree }
      | .error error =>
        .refusal tree failed ("error: writing '" ++ out ++ "': " ++ error.message)

/-- The command that the first word names. -/
def dispatch (tree : Files.Tree) : List String → Outcome
  | [] => .refusal tree misused usage
  | "check" :: words => check tree words
  | "fmt" :: words => render Story.script tree words
  | "export" :: words => render Story.plain tree words
  | other :: _ => .refusal tree misused ("unknown command: " ++ other ++ "\n" ++ usage)

/-- Run the command.  Two dashes before its words do not count. -/
def run (tree : Files.Tree) : List String → Outcome
  | "--" :: words => dispatch tree words
  | words => dispatch tree words

end Scripts

end CommandLine
end Gamebook
