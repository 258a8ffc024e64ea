import Gamebook.Story
import Gamebook.Text.Lines

namespace Gamebook

/-!
# The script of a story

A script is the story's title, a blank line, and a block for every passage, the
opening first.  A block is a header with the passage's title, attribute lines,
the content, and the links, each with a line for its actions if it has any.  A
blank line ends every block.
-/

namespace Script

/-- What opens the header of a passage. -/
def headerMark : List Char := [':', ':']

/-- What opens the attribute line of a mood. -/
def moodMark : List Char := ['@', 'm', 'o', 'o', 'd', ' ']

/-- The attribute line of a passage for a single visit. -/
def singleVisitLine : List Char := "@single-visit".toList

end Script

/-- The line that stands for a link without its actions. -/
def Link.line (link : Link) : List Char :=
  '[' :: link.text.toList ++ [']', '('] ++ link.reference.toList ++ [')']

def Link.actionLine (link : Link) : List Char :=
  '\x7b' :: Text.join [','] (link.actions.map fun action => action.short.toList) ++ ['\x7d']

def Link.lines (link : Link) : List (List Char) :=
  if link.actions.isEmpty then [link.line] else [link.line, link.actionLine]

def Passage.headerLine (passage : Passage) : List Char :=
  Script.headerMark ++ passage.title.toList

/-- The attribute lines of a passage.  What is usual is not written. -/
def Passage.attributeLines (passage : Passage) : List (List Char) :=
  (if passage.mood = .none then [] else [Script.moodMark ++ passage.mood.key.toList]) ++
    (if passage.singleVisit then [Script.singleVisitLine] else [])

/-- The block of a passage, without the blank line that ends it. -/
def Passage.lines (passage : Passage) : List (List Char) :=
  passage.headerLine ::
    (passage.attributeLines ++ passage.content.toList :: passage.links.flatMap Link.lines)

/-- The block of a passage for proofreading: no attributes and no actions. -/
def Passage.plainLines (passage : Passage) : List (List Char) :=
  passage.headerLine :: passage.content.toList :: passage.links.map Link.line

namespace Story

/-- The lines of a script in which passages have the given blocks. -/
def linesWith (story : Story) (block : Passage → List (List Char)) : List (List Char) :=
  story.title.toList :: [] :: story.passages.flatMap fun passage => block passage ++ [[]]

def script (story : Story) : String :=
  String.ofList (Text.unlines (story.linesWith Passage.lines))

/-- The story for proofreading.  It has the layout of a script, without
attributes and actions. -/
def plain (story : Story) : String :=
  String.ofList (Text.unlines (story.linesWith Passage.plainLines))

end Story

end Gamebook
