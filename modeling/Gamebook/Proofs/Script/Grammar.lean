import Mathlib.Data.List.Forall2
import Mathlib.Data.List.ReduceOption
import Gamebook.Script.Written

namespace Gamebook
namespace Script

/-!
# The grammar of a script

What a script may look like, line by line, and what it spells.  The grammar only
puts lines together.  It has no cursor and no order in which lines are tried, and
it does not say what is wrong with a text that is no script.

A line may have blanks where the grammar names a text that is blank.  Elsewhere
every character counts.
-/

/-! ## Attributes -/

/-- What an attribute line says. -/
inductive Attribute
  | mood (mood : Mood)
  | singleVisit
  deriving DecidableEq, Repr

def Attribute.mood? : Attribute → Option Mood
  | .mood given => some given
  | .singleVisit => none

/-- The mood that attributes give a passage: the last that they name. -/
def lastMood (attributes : List Attribute) : Mood :=
  (attributes.filterMap Attribute.mood?).getLast?.getD .none

/-- The lines of attributes.  A mood's key may be in any case. -/
inductive AttributeLine : List Char → Attribute → Prop
  | mood {before key after : List Char} {mood : Mood} (blankBefore : Text.isBlank before = true)
      (blankAfter : Text.isBlank after = true) (isKey : key.map Char.toUpper = mood.key.toList) :
      AttributeLine (moodMark ++ (before ++ (key ++ after))) (.mood mood)
  | singleVisit {after : List Char} (blank : Text.isBlank after = true) :
      AttributeLine (singleVisitLine ++ after) .singleVisit

/-! ## Links and their actions -/

/-- The lines of links, without their actions. -/
inductive LinkLine : List Char → LinkKey → Prop
  | link {text reference : String} {after : List Char}
      (isText : Rule.linkPart "link text" Limits.linkText text = .ok ())
      (isReference : Rule.linkPart "link reference" Limits.linkReference reference = .ok ())
      (blank : Text.isBlank after = true) :
      LinkLine ('[' :: text.toList ++ [']', '('] ++ reference.toList ++ [')'] ++ after)
        ⟨text, reference⟩

/-- What may stand between two commas of an action line: nothing but blanks, or
the short form of an action. -/
inductive ActionPiece : List Char → Option Action → Prop
  | empty {piece : List Char} (blank : Text.isBlank piece = true) : ActionPiece piece none
  | action {piece : List Char} {action : Action}
      (isShort : Action.ofShort (String.ofList (Text.trim piece)) = .ok action) :
      ActionPiece piece (some action)

/-- The lines of actions. -/
inductive ActionLine : List Char → List Action → Prop
  | actions {before after : List Char} {pieces : List (List Char)} {read : List (Option Action)}
      (blankBefore : Text.isBlank before = true) (blankAfter : Text.isBlank after = true)
      (apart : ∀ piece ∈ pieces, ',' ∉ piece) (arePieces : List.Forall₂ ActionPiece pieces read) :
      ActionLine (before ++ ('\x7b' :: Text.join [','] pieces ++ ['\x7d'] ++ after))
        read.reduceOption

/-- The lines of a passage's links.  A link's actions stand on the next line. -/
inductive LinkLines : List (List Char) → List Link → Prop
  | nil : LinkLines [] []
  | bare {line : List Char} {key : LinkKey} {lines : List (List Char)} {links : List Link}
      (isLink : LinkLine line key) (more : LinkLines lines links) :
      LinkLines (line :: lines) (⟨key, []⟩ :: links)
  | acting {line actionLine : List Char} {key : LinkKey} {actions : List Action}
      {lines : List (List Char)} {links : List Link} (isLink : LinkLine line key)
      (areActions : ActionLine actionLine actions) (more : LinkLines lines links) :
      LinkLines (line :: actionLine :: lines) (⟨key, actions⟩ :: links)

/-! ## Passages and stories -/

/-- The lines of a passage: a header, attributes, the content, and links with
different keys. -/
inductive PassageLines : List (List Char) → Passage → Prop
  | passage {title content : String} {attributeLines linkLines : List (List Char)}
      {attributes : List Attribute} {links : List Link}
      (isTitle : Rule.text "passage title" Limits.passageTitle title = .ok ())
      (areAttributes : List.Forall₂ AttributeLine attributeLines attributes)
      (isContent : Rule.content "passage content" content = .ok ())
      (areLinks : LinkLines linkLines links) (distinct : (links.map Link.key).Nodup) :
      PassageLines ((headerMark ++ title.toList) :: (attributeLines ++ content.toList :: linkLines))
        { title
          content
          mood := lastMood attributes
          singleVisit := attributes.contains .singleVisit
          links }

/-- The lines of passages, with any number of blank lines around them. -/
inductive PassagesLines : List (List Char) → List Passage → Prop
  | nil : PassagesLines [] []
  | blank {line : List Char} {lines : List (List Char)} {passages : List Passage}
      (isBlank : Text.isBlank line = true) (more : PassagesLines lines passages) :
      PassagesLines (line :: lines) passages
  | passage {block lines : List (List Char)} {passage : Passage} {passages : List Passage}
      (isPassage : PassageLines block passage) (more : PassagesLines lines passages) :
      PassagesLines (block ++ lines) (passage :: passages)

/-- The lines of a story.  The first passage is the opening, and the others are
stored under their own keys, in the order of their titles. -/
inductive StoryLines : List (List Char) → Story → Prop
  | story {title : String} {second : List Char} {lines : List (List Char)} {opening : Passage}
      {others stored : List Passage}
      (isTitle : Rule.text "story title" Limits.storyTitle title = .ok ())
      (blank : Text.isBlank second = true) (arePassages : PassagesLines lines (opening :: others))
      (distinct : ((opening :: others).map Passage.title).Nodup) (sameStored : stored.Perm others)
      (ordered : Ascending Passage.title stored) :
      StoryLines (title.toList :: second :: lines) ⟨title, opening, Story.filing stored⟩

/-! ## What the grammar spells is well-formed -/

theorem valid_of_actionLine {line : List Char} {actions : List Action}
    (areActions : ActionLine line actions) : ∀ action ∈ actions, action.Valid := by
  induction areActions with
  | actions blankBefore blankAfter apart arePieces =>
    intro action member
    rw [List.reduceOption_mem_iff] at member
    rcases List.forall₂_iff_get.mp arePieces with ⟨sameLength, each⟩
    rcases List.mem_iff_get.mp member with ⟨⟨i, inside⟩, found⟩
    have isPiece := each i (sameLength ▸ inside) inside
    rw [found] at isPiece
    cases isPiece with
    | action isShort => exact Action.valid_of_ofShort isShort

theorem wellFormed_of_linkLine {line : List Char} {key : LinkKey} (isLink : LinkLine line key) :
    Link.WellFormed ⟨key, []⟩ := by
  induction isLink with
  | link isText isReference blank => exact ⟨isText, isReference, List.forall_mem_nil _⟩

theorem wellFormed_of_linkLines {lines : List (List Char)} {links : List Link}
    (areLinks : LinkLines lines links) : ∀ link ∈ links, link.WellFormed := by
  induction areLinks with
  | nil => exact List.forall_mem_nil _
  | bare isLink more ih => exact List.forall_mem_cons.mpr ⟨wellFormed_of_linkLine isLink, ih⟩
  | acting isLink areActions more ih =>
    have valid := valid_of_actionLine areActions
    exact List.forall_mem_cons.mpr ⟨(wellFormed_of_linkLine isLink).withActions valid, ih⟩

theorem wellFormed_of_passageLines {lines : List (List Char)} {passage : Passage}
    (areLines : PassageLines lines passage) : passage.WellFormed := by
  induction areLines with
  | passage isTitle areAttributes isContent areLinks distinct =>
    exact ⟨isTitle, isContent, wellFormed_of_linkLines areLinks, distinct⟩

theorem wellFormed_of_passagesLines {lines : List (List Char)} {passages : List Passage}
    (areLines : PassagesLines lines passages) : ∀ passage ∈ passages, passage.WellFormed := by
  induction areLines with
  | nil => exact List.forall_mem_nil _
  | blank isBlank more ih => exact ih
  | passage isPassage more ih =>
    exact List.forall_mem_cons.mpr ⟨wellFormed_of_passageLines isPassage, ih⟩

/-- A story that is spelled by lines is well-formed. -/
theorem wellFormed_of_storyLines {lines : List (List Char)} {story : Story}
    (areLines : StoryLines lines story) : story.WellFormed := by
  induction areLines with
  | story isTitle blank arePassages distinct sameStored ordered =>
    have wellFormed := wellFormed_of_passagesLines arePassages
    have apart := (List.nodup_cons.mp distinct).1
    refine ⟨isTitle, fun passage member => ?_, Story.keyedByTitle_filing _ _ _, ?_, ?_⟩
    · rw [Story.passages, Story.stored_filing] at member
      refine wellFormed passage (List.mem_cons.mpr ?_)
      exact (List.mem_cons.mp member).imp id sameStored.mem_iff.mp
    · rw [Story.stored_filing]
      exact ordered
    · rw [Story.stored_filing]
      intro passage stored same
      exact apart (same ▸ List.mem_map_of_mem (sameStored.mem_iff.mp stored))

end Script
end Gamebook
