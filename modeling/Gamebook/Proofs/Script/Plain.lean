import Gamebook.Proofs.Story.Identity
import Gamebook.Proofs.Story.Titles
import Gamebook.Report

namespace Gamebook

/-!
# The story for proofreading

The text for proofreading leaves out attributes and actions.  A script leaves them out
too when there are none, so the text is the script of a story from which they are taken
away, and that story is what is read back from it.  No text of the story gets in the way
of this: what is left of a passage still follows every rule.

A report looks at the outline of a story, which is made of the titles of its passages and
of the keys of their links.  The outline is the same without attributes and actions, and
therefore the report is.  That is shown for every change of passages that keeps the
outline, one step of the search at a time.
-/

/-! ## Stripping -/

namespace Passage

/-- The passage with no mood, for any number of visits, and without actions. -/
def stripped (passage : Passage) : Passage :=
  { passage.bare with mood := .none, singleVisit := false }

theorem WellFormed.stripped {passage : Passage} (wellFormed : passage.WellFormed) :
    passage.stripped.WellFormed :=
  wellFormed.bare.withAttributes .none false

/-- Without attributes and actions a script has the lines of the text for proofreading. -/
theorem lines_stripped (passage : Passage) : passage.stripped.lines = passage.plainLines := by
  have noActions : passage.stripped.links.flatMap Link.lines = passage.links.map Link.line := by
    rw [stripped, bare, List.flatMap_map]
    exact List.flatMap_pure_eq_map Link.line passage.links
  rw [lines, noActions]
  rfl

end Passage

namespace Story

/-- The story with no moods, no single visits and no actions. -/
def stripped (story : Story) : Story := story.mapPassages Passage.stripped

theorem WellFormed.stripped {story : Story} (wellFormed : story.WellFormed) :
    story.stripped.WellFormed :=
  wellFormed.mapPassages (fun _ => rfl) fun passage member =>
    (wellFormed.passages passage member).stripped

/-- The text for proofreading is a script. -/
theorem script_stripped (story : Story) : story.stripped.script = story.plain := by
  rw [script, plain, linesWith, linesWith, stripped, passages_mapPassages, List.flatMap_map]
  simp only [Passage.lines_stripped]
  rfl

/-- Stories have the same text for proofreading when they differ in attributes and actions
alone. -/
theorem plain_eq_iff {a b : Story} (wellFormed : a.WellFormed) (wellFormed' : b.WellFormed) :
    a.plain = b.plain ↔ a.stripped = b.stripped := by
  rw [← script_stripped, ← script_stripped,
    script_injective wellFormed.stripped wellFormed'.stripped]

/-! ## What a report looks at -/

/-- Says that a change of passages keeps their titles and the keys of their links. -/
structure KeepsOutline (f : Passage → Passage) : Prop where
  title : ∀ passage, (f passage).title = passage.title
  keys : ∀ passage, (f passage).links.map Link.key = passage.links.map Link.key

/-- The keys of the links, in order, with the titles of the passages on which they are. -/
def titledKeys (story : Story) : List (String × LinkKey) :=
  story.passages.flatMap fun passage =>
    (passage.links.map Link.key).map fun key => (passage.title, key)

/-- The titles and keys of the links that lead to no passage. -/
def brokenKeys (story : Story) : List (String × LinkKey) :=
  story.titledKeys.filter fun titled => !story.titles.contains titled.2.reference

/-- A walk over the links that asks for titles and keys alone sees the titled keys. -/
theorem titledKeys_eq (story : Story) :
    story.titledKeys =
      story.linkOccurrences.map fun placed => (placed.1.title, placed.2.key) := by
  rw [titledKeys, linkOccurrences, List.map_flatMap]
  simp only [List.map_map]
  rfl

theorem brokenLinks_eq (story : Story) :
    story.brokenLinks = ascending (story.brokenKeys.map Prod.snd) := by
  have keys :
      story.titledKeys.map Prod.snd = (story.passages.flatMap Passage.links).map Link.key := by
    rw [titledKeys, List.map_flatMap, List.map_flatMap]
    simp only [List.map_map]
    rfl
  have broken : story.brokenKeys.map Prod.snd =
      (story.titledKeys.map Prod.snd).filter fun key => !story.titles.contains key.reference := by
    rw [List.filter_map]
    rfl
  rw [broken, keys, List.filter_map]
  rfl

theorem findings_eq (story : Story) :
    (Report.ofStory story).findings =
      (story.brokenKeys.map fun titled => .brokenLink titled.1 titled.2.text titled.2.reference) ++
        story.unreachable.map .unreachable ++ story.deadEnds.map .deadEnd := by
  rw [brokenKeys, titledKeys_eq, List.filter_map, List.map_map]
  rfl

theorem size_mapPassages (story : Story) (f : Passage → Passage) :
    (story.mapPassages f).size = story.size := by
  rw [size, passages_mapPassages, List.length_map, size]

namespace KeepsOutline

variable {f : Passage → Passage}

theorem titles (keeps : KeepsOutline f) (story : Story) :
    (story.mapPassages f).titles = story.titles := by
  rw [Story.titles, passages_mapPassages, List.map_map]
  exact List.map_congr_left fun passage _ => keeps.title passage

theorem titledKeys (keeps : KeepsOutline f) (story : Story) :
    (story.mapPassages f).titledKeys = story.titledKeys := by
  rw [Story.titledKeys, passages_mapPassages, List.flatMap_map]
  simp only [keeps.keys, keeps.title]
  rfl

theorem brokenKeys (keeps : KeepsOutline f) (story : Story) :
    (story.mapPassages f).brokenKeys = story.brokenKeys := by
  rw [Story.brokenKeys, keeps.titledKeys, keeps.titles, Story.brokenKeys]

theorem deadEnds (keeps : KeepsOutline f) (story : Story) :
    (story.mapPassages f).deadEnds = story.deadEnds := by
  have isEnding : Passage.isEnding ∘ f = Passage.isEnding := by
    funext passage
    have sameKeys := congrArg List.isEmpty (keeps.keys passage)
    rwa [List.isEmpty_map, List.isEmpty_map] at sameKeys
  rw [Story.deadEnds, passages_mapPassages, List.filter_map, isEnding, List.map_map]
  exact List.map_congr_left fun passage _ => keeps.title passage

/-! ### The search -/

theorem contains (keeps : KeepsOutline f) (story : Story) (title : String) :
    (story.mapPassages f).contains title = story.contains title := by
  rw [contains_eq_isSome_find?, find?_mapPassages keeps.title, Option.isSome_map,
    ← contains_eq_isSome_find?]

/-- Links with the same keys lead to the same new titles. -/
theorem newTitles (keeps : KeepsOutline f) (story : Story) {seen : List String}
    {links links' : List Link} (sameKeys : links'.map Link.key = links.map Link.key) :
    (story.mapPassages f).newTitles seen links' = story.newTitles seen links := by
  induction links generalizing links' seen with
  | nil =>
    cases List.map_eq_nil_iff.mp sameKeys
    rfl
  | cons link links ih =>
    rcases List.map_eq_cons_iff.mp sameKeys with ⟨link', rest, rfl, sameKey, sameRest⟩
    have sameReference : link'.reference = link.reference := congrArg LinkKey.reference sameKey
    rw [Story.newTitles, Story.newTitles, sameReference, keeps.contains, ih sameRest, ih sameRest]

/-- A step looks at passages with the same title in both stories, and it finds the same
new titles on them. -/
theorem search (keeps : KeepsOutline f) (story : Story) (fuel : Nat) (queue seen : List String) :
    (story.mapPassages f).search fuel queue seen = story.search fuel queue seen := by
  induction fuel generalizing queue seen with
  | zero => rfl
  | succ fuel ih =>
    cases queue with
    | nil => rfl
    | cons title queue =>
      -- The same title is found in both stories or in neither.
      rw [Story.search, Story.search, find?_mapPassages keeps.title]
      cases story.find? title with
      | none => exact ih queue seen
      | some passage =>
        rw [Option.map_some]
        simp only [keeps.newTitles story (keeps.keys passage)]
        exact ih _ _

theorem unreachable (keeps : KeepsOutline f) (story : Story) :
    (story.mapPassages f).unreachable = story.unreachable := by
  have opening : (story.mapPassages f).opening.title = story.opening.title :=
    keeps.title story.opening
  have reachable : (story.mapPassages f).reachable = story.reachable := by
    rw [reachable, opening, size_mapPassages, keeps.search, reachable]
  have stored :
      (story.mapPassages f).stored.map Passage.title = story.stored.map Passage.title := by
    rw [stored_mapPassages, List.map_map]
    exact List.map_congr_left fun passage _ => keeps.title passage
  rw [Story.unreachable, reachable, stored, Story.unreachable]

/-- Passages may change in whatever their outlines do not show, and the report is the
same. -/
theorem ofStory (keeps : KeepsOutline f) (story : Story) :
    Report.ofStory (story.mapPassages f) = Report.ofStory story := by
  have brokenLinks : (story.mapPassages f).brokenLinks = story.brokenLinks := by
    rw [brokenLinks_eq, keeps.brokenKeys, brokenLinks_eq]
  have findings : (Report.ofStory (story.mapPassages f)).findings =
      (Report.ofStory story).findings := by
    rw [findings_eq, keeps.brokenKeys, keeps.unreachable, keeps.deadEnds, findings_eq]
  rw [Report.ofStory, Report.ofStory, Report.mk.injEq]
  exact ⟨rfl, story.size_mapPassages f, brokenLinks, keeps.unreachable story, keeps.deadEnds story,
    findings⟩

end KeepsOutline

theorem keepsOutline_stripped : KeepsOutline Passage.stripped where
  title _ := rfl
  keys _ := List.map_map

/-! ## Proofreading -/

/-- Whatever the texts of a story look like, its text for proofreading is the script of the
story without moods, single visits and actions.  That story is read back from it, and it
has the report of the story itself. -/
theorem plain_readBack {story : Story} (wellFormed : story.WellFormed) :
    story.plain = story.stripped.script ∧
      ∃ read, ofScript story.plain = .ok read ∧ read.identical story.stripped = true ∧
        Report.ofStory read = Report.ofStory story := by
  refine ⟨story.script_stripped.symm, story.stripped, ?_, ?_, ?_⟩
  · rw [← script_stripped]
    exact ofScript_of_wellFormed wellFormed.stripped
  · exact identical_self wellFormed.stripped
  · exact keepsOutline_stripped.ofStory story

/-- Contents and links that look like attributes and actions are proofread as they are. -/
theorem plain_readBack_disguised :
    disguised.WellFormed ∧ disguised.stripped ≠ disguised ∧
      disguised.plain = disguised.stripped.script ∧
      ∃ read, ofScript disguised.plain = .ok read ∧ read.identical disguised.stripped = true ∧
        Report.ofStory read = Report.ofStory disguised := by
  have wellFormed : disguised.WellFormed := by decide
  exact ⟨wellFormed, by decide, plain_readBack wellFormed⟩

end Story
end Gamebook
