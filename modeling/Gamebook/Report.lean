import Gamebook.Story

namespace Gamebook

/-!
# Reports on a story's structure

A link is broken when its reference names no passage.  A passage is reachable
when links lead to it from the opening, and it ends the story when it has no
links.  A report collects what an author should look at; nothing in it is an
error.
-/

namespace Story

/-- Every link with the passage that it stands on, the opening's links first. -/
def linkOccurrences (story : Story) : List (Passage × Link) :=
  story.passages.flatMap fun passage => passage.links.map fun link => (passage, link)

/-- Says whether the link leads to no passage of the story. -/
def isBroken (story : Story) (link : Link) : Bool :=
  !story.titles.contains link.reference

/-- The keys of the broken links, in order, each once. -/
def brokenLinks (story : Story) : List LinkKey :=
  ascending (((story.passages.flatMap Passage.links).filter story.isBroken).map Link.key)

theorem isBroken_iff {story : Story} {link : Link} :
    story.isBroken link = true ↔ link.reference ∉ story.titles := by
  rw [isBroken, Bool.not_eq_true', ← Bool.not_eq_true, List.contains_iff_mem]

/-- A key is broken when a link of some passage has it and it refers to no passage. -/
theorem mem_brokenLinks_iff {story : Story} {key : LinkKey} :
    key ∈ story.brokenLinks ↔
      (∃ passage ∈ story.passages, passage.hasLink key = true) ∧ key.reference ∉ story.titles := by
  rw [brokenLinks, mem_ascending, List.mem_map]
  constructor
  · rintro ⟨link, listed, rfl⟩
    rcases List.mem_filter.mp listed with ⟨onSome, broken⟩
    rcases List.mem_flatMap.mp onSome with ⟨passage, member, onPassage⟩
    exact ⟨⟨passage, member, Passage.hasLink_iff.mpr (List.mem_map_of_mem onPassage)⟩,
      isBroken_iff.mp broken⟩
  · rintro ⟨⟨passage, member, offered⟩, broken⟩
    rcases List.mem_map.mp (Passage.hasLink_iff.mp offered) with ⟨link, onPassage, rfl⟩
    have onSome : link ∈ story.passages.flatMap Passage.links :=
      List.mem_flatMap.mpr ⟨passage, member, onPassage⟩
    exact ⟨link, List.mem_filter.mpr ⟨onSome, isBroken_iff.mpr broken⟩, rfl⟩

/-- A link of the story has a broken key when it leads to no passage. -/
theorem key_mem_brokenLinks_iff {story : Story} {passage : Passage} {link : Link}
    (member : passage ∈ story.passages) (onPassage : link ∈ passage.links) :
    link.key ∈ story.brokenLinks ↔ link.reference ∉ story.titles := by
  have offered := Passage.hasLink_iff.mpr (List.mem_map_of_mem (f := Link.key) onPassage)
  rw [mem_brokenLinks_iff, and_iff_right ⟨passage, member, offered⟩, Link.reference]

/-! ## Reachability -/

/-- The titles of passages that a passage leads to and that are not yet seen,
each once, in the order of the links. -/
def newTitles (story : Story) (seen : List String) : List Link → List String
  | [] => []
  | link :: links =>
    if seen.contains link.reference then newTitles story seen links
    else if story.contains link.reference then
      link.reference :: newTitles story (link.reference :: seen) links
    else newTitles story seen links

/-- Continue a breadth-first search.  `queue` holds the passages that are still
to be looked at and `seen` the titles found so far.  Every title enters the
queue once, so `fuel` steps are enough when there are no more titles than that. -/
def search (story : Story) : Nat → List String → List String → List String
  | 0, _, seen => seen
  | _, [], seen => seen
  | fuel + 1, title :: queue, seen =>
    match story.find? title with
    | none => search story fuel queue seen
    | some passage =>
      let found := story.newTitles seen passage.links
      search story fuel (queue ++ found) (found ++ seen)

/-- The titles that links lead to from the opening, in ascending order. -/
def reachable (story : Story) : List String :=
  ascending (story.search story.size [story.opening.title] [story.opening.title])

/-- A title is reached if it is the opening's, or if a passage with a reached
title links to it and it names a passage. -/
inductive Reaches (story : Story) : String → Prop
  | opening : Reaches story story.opening.title
  | link {passage : Passage} {link : Link} (from_reached : Reaches story passage.title)
      (member : passage ∈ story.passages) (on_passage : link ∈ passage.links)
      (named : link.reference ∈ story.titles) : Reaches story link.reference

/-- The titles of stored passages that cannot be reached, in order. -/
def unreachable (story : Story) : List String :=
  let reached := story.reachable
  ascending ((story.stored.map Passage.title).filter fun title => !reached.contains title)

/-- The titles of the passages without links, the opening first. -/
def deadEnds (story : Story) : List String :=
  (story.passages.filter Passage.isEnding).map Passage.title

end Story

/-! ## Findings -/

/-- Something about a story that its author should know. -/
inductive Finding
  | brokenLink (passage text reference : String)
  | unreachable (title : String)
  | deadEnd (title : String)
  deriving DecidableEq, Repr

def Finding.message : Finding → String
  | .brokenLink passage text reference =>
    "broken link [" ++ text ++ "](" ++ reference ++ ") in passage '" ++ passage ++ "'"
  | .unreachable title => "passage '" ++ title ++ "' cannot be reached"
  | .deadEnd title => "passage '" ++ title ++ "' ends the story"

/-- What the structure of a story shows. -/
structure Report where
  title : String
  passageCount : Nat
  brokenLinks : List LinkKey
  unreachable : List String
  deadEnds : List String
  findings : List Finding
  deriving DecidableEq, Repr

namespace Report

/-- The report on a story.  Every occurrence of a broken link is a finding of
its own, while the list of broken links names each key once. -/
def ofStory (story : Story) : Report where
  title := story.title
  passageCount := story.size
  brokenLinks := story.brokenLinks
  unreachable := story.unreachable
  deadEnds := story.deadEnds
  findings :=
    ((story.linkOccurrences.filter fun (_, link) => story.isBroken link).map
      fun (passage, link) => .brokenLink passage.title link.text link.reference) ++
    story.unreachable.map .unreachable ++
    story.deadEnds.map .deadEnd

/-- Says whether the story can be played safely: no link is broken, and some
passage ends it. -/
def isPlayable (report : Report) : Bool :=
  report.brokenLinks.isEmpty && !report.deadEnds.isEmpty

end Report

end Gamebook
