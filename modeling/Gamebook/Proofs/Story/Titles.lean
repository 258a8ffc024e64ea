import Mathlib.Data.List.Nodup
import Gamebook.Story

namespace Gamebook

/-!
# A story as a map of its titles

A story holds its opening apart from the stored passages, and those under keys of
two parts, of which anyone may make one.  Seen from outside it is a map from titles
to passages: whatever way a passage is looked for, the answers agree, and an edit
changes what is found under the titles that it is about and nothing else.

The ways of looking are compared once, for one story.  What each edit does to the
map is then one lemma for each edit, and a run of edits keeps both because it keeps
the story well-formed.
-/

/-- The passage after an edit, or as it was when the edit is refused. -/
def Passage.edited (passage : Passage) (edit : Passage.Edit) : Passage :=
  (passage.edit edit).toOption.getD passage

namespace Story

/-! ## Looking for passages -/

/-- The ways to look at the passages of a story agree. -/
structure ViewsAgree (story : Story) : Prop where
  /-- All passages are the opening and then the stored ones. -/
  listed : story.passages = story.opening :: story.stored
  ordered : Ascending Passage.title story.stored
  distinct : story.titles.Nodup
  counted : story.size = story.passages.length
  found : ∀ title passage,
    story.find? title = some passage ↔ passage ∈ story.passages ∧ passage.title = title
  named : ∀ title, story.contains title = (story.find? title).isSome
  /-- Under a key there is the stored passage of which it is the own key. -/
  filed : ∀ key passage,
    story.stored? key = some passage ↔ passage ∈ story.stored ∧ key = .toPassage passage.title
  /-- Under the own key of a title there is what has the title, but for the opening. -/
  filedByTitle : ∀ title, story.stored? (.toPassage title) =
    if title = story.opening.title then none else story.find? title

section

variable {story after : Story} {passage : Passage}

/-- What is found by a title is the passage that has it. -/
theorem find?_eq_some_iff (wellFormed : story.WellFormed) {title : String} :
    story.find? title = some passage ↔ passage ∈ story.passages ∧ passage.title = title := by
  refine ⟨mem_of_find? wellFormed.keyed, ?_⟩
  rintro ⟨member, rfl⟩
  exact find?_of_mem wellFormed member

theorem stored?_toPassage (wellFormed : story.WellFormed) (title : String) :
    story.stored? (.toPassage title) =
      if title = story.opening.title then none else story.find? title := by
  split
  · next atOpening =>
    rw [wellFormed.keyed.stored?_eq, List.find?_eq_none]
    intro other stored same
    have sameTitle := LinkKey.toPassage_inj.mp (of_decide_eq_true same)
    exact wellFormed.openingApart other stored (sameTitle.trans atOpening)
  · next apart => rw [find?, if_neg (Ne.symm apart)]

theorem WellFormed.viewsAgree (wellFormed : story.WellFormed) : story.ViewsAgree where
  listed := rfl
  ordered := wellFormed.ordered
  distinct := wellFormed.titles_nodup
  counted := rfl
  found _ _ := find?_eq_some_iff wellFormed
  named := contains_eq_isSome_find? story
  filed _ _ := wellFormed.stored?_eq_some_iff
  filedByTitle := stored?_toPassage wellFormed

/-! ## Adding and removing -/

/-- Says that a story is another one with one more passage. -/
structure IsAdded (story : Story) (passage : Passage) (after : Story) : Prop where
  title : after.title = story.title
  opening : after.opening = story.opening
  passages : after.passages.Perm (passage :: story.passages)
  found : ∀ title, after.find? title =
    if title = passage.title then some passage else story.find? title

/-- Says that a story is another one without one of its stored passages. -/
structure IsRemoved (story : Story) (passage : Passage) (after : Story) : Prop where
  title : after.title = story.title
  opening : after.opening = story.opening
  passages : story.passages.Perm (passage :: after.passages)
  found : ∀ title, after.find? title =
    if title = passage.title then none else story.find? title

/-- Says that the key is the own key of a stored passage to which no other passage
links. -/
structure Removable (story : Story) (key : LinkKey) (passage : Passage) : Prop where
  stored : passage ∈ story.stored
  isKey : key = .toPassage passage.title
  unlinked : ∀ other ∈ story.passages, other.title ≠ passage.title →
    ∀ link ∈ other.links, link.reference ≠ passage.title

/-- A passage that is added is found by its title, and under each other title there is
what was there. -/
theorem WellFormed.isAdded (wellFormed : story.WellFormed)
    (passageWellFormed : passage.WellFormed) (added : story.add? passage = some after) :
    story.IsAdded passage after := by
  have free := ((add?_eq_some_iff wellFormed.keyed).mp added).1
  rcases stored_of_add? wellFormed.keyed added with ⟨sameTitle, sameOpening, -⟩
  have together := passages_of_add? wellFormed.keyed added
  refine ⟨sameTitle, sameOpening, together, fun title => Option.ext fun other => ?_⟩
  rw [find?_eq_some_iff (wellFormed.add? passageWellFormed added), together.mem_iff, List.mem_cons]
  split
  · next isNew =>
    subst isNew
    rw [Option.some.injEq]
    constructor
    · rintro ⟨rfl | old, same⟩
      · rfl
      · exact absurd (same ▸ List.mem_map_of_mem old) free
    · rintro rfl
      exact ⟨.inl rfl, rfl⟩
  · next isOther =>
    rw [find?_eq_some_iff wellFormed]
    refine and_congr_left fun same => or_iff_right ?_
    rintro rfl
    exact isOther same.symm

theorem isReferenced_iff {title : String} :
    story.isReferenced title = true ↔
      ∃ other ∈ story.passages, other.title ≠ title ∧
        ∃ link ∈ other.links, link.reference = title := by
  simp only [isReferenced, List.any_eq_true, Bool.and_eq_true, decide_eq_true_eq]

/-- What is removed is what was filed under the key, and only where nothing else links
to it. -/
theorem remove?_eq_some_iff (wellFormed : story.WellFormed) {key : LinkKey} :
    story.remove? key = some after ↔
      (∃ passage, story.Removable key passage) ∧
        after = { story with filed := story.filed.filter fun entry => entry.1 ≠ key } := by
  have filed {passage : Passage} : story.stored? key = some passage ↔
      passage ∈ story.stored ∧ key = .toPassage passage.title :=
    wellFormed.stored?_eq_some_iff
  unfold remove?
  split
  · next atOpening =>
    refine iff_of_false nofun ?_
    rintro ⟨⟨passage, stored, rfl, -⟩, -⟩
    exact wellFormed.openingApart passage stored atOpening
  split
  · next nothing =>
    refine iff_of_false nofun ?_
    rintro ⟨⟨passage, stored, isKey, -⟩, -⟩
    rw [filed.mpr ⟨stored, isKey⟩] at nothing
    cases nothing
  split
  · next linked =>
    refine iff_of_false nofun ?_
    rintro ⟨⟨passage, -, rfl, unlinked⟩, -⟩
    rcases isReferenced_iff.mp linked with ⟨other, member, apart, link, onOther, same⟩
    exact unlinked other member apart link onOther same
  · next _ something unlinked =>
    rcases Option.ne_none_iff_exists'.mp (mt Option.isNone_iff_eq_none.mpr something) with
      ⟨passage, found⟩
    rcases filed.mp found with ⟨stored, rfl⟩
    have removable : story.Removable (.toPassage passage.title) passage := by
      refine ⟨stored, rfl, fun other member apart link onOther same => unlinked ?_⟩
      exact isReferenced_iff.mpr ⟨other, member, apart, link, onOther, same⟩
    rw [Option.some.injEq, eq_comm (b := after), and_iff_right ⟨passage, removable⟩]

/-- What is left after a removal are the passages with other titles. -/
theorem Removable.mem_passages_iff {key : LinkKey} (removable : story.Removable key passage)
    (wellFormed : story.WellFormed) (other : Passage) :
    other ∈ passages { story with filed := story.filed.filter fun entry => entry.1 ≠ key } ↔
      other ∈ story.passages ∧ other.title ≠ passage.title := by
  rcases removable with ⟨stored, rfl, -⟩
  have openingApart : story.opening.title ≠ passage.title :=
    Ne.symm (wellFormed.openingApart passage stored)
  have left : other ∈ Story.stored { story with
        filed := story.filed.filter fun entry => entry.1 ≠ .toPassage passage.title } ↔
      other ∈ story.stored ∧ other.title ≠ passage.title := by
    simp only [Story.stored, List.mem_map, List.mem_filter, decide_eq_true_eq]
    constructor
    · rintro ⟨entry, ⟨filed, apart⟩, rfl⟩
      rw [wellFormed.keyed entry filed, ne_eq, LinkKey.toPassage_inj] at apart
      exact ⟨⟨entry, filed, rfl⟩, apart⟩
    · rintro ⟨⟨entry, filed, rfl⟩, apart⟩
      refine ⟨entry, ⟨filed, ?_⟩, rfl⟩
      rwa [wellFormed.keyed entry filed, ne_eq, LinkKey.toPassage_inj]
  rw [passages, passages, List.mem_cons, List.mem_cons, left, or_and_right]
  refine or_congr_left (iff_self_and.mpr ?_)
  rintro rfl
  exact openingApart

/-- A passage that is removed is found no longer, and under each other title there is
what was there. -/
theorem WellFormed.isRemoved (wellFormed : story.WellFormed) {key : LinkKey}
    (removed : story.remove? key = some after) :
    ∃ passage, story.Removable key passage ∧ story.IsRemoved passage after := by
  have afterWellFormed := wellFormed.remove? removed
  rcases (remove?_eq_some_iff wellFormed).mp removed with ⟨⟨passage, removable⟩, rfl⟩
  have isPassage := List.mem_cons_of_mem story.opening removable.stored
  have kept := removable.mem_passages_iff wellFormed
  refine ⟨passage, removable, rfl, rfl, ?_, fun title => Option.ext fun other => ?_⟩
  · have distinct := List.Nodup.of_map _ wellFormed.titles_nodup
    have keptDistinct := List.Nodup.of_map _ afterWellFormed.titles_nodup
    have gone := fun member => ((kept passage).mp member).2 rfl
    refine (List.perm_ext_iff_of_nodup distinct (keptDistinct.cons gone)).mpr fun other => ?_
    rw [List.mem_cons, kept]
    constructor
    · intro member
      by_cases same : other.title = passage.title
      · exact .inl (List.inj_on_of_nodup_map wellFormed.titles_nodup member isPassage same)
      · exact .inr ⟨member, same⟩
    · rintro (rfl | ⟨member, -⟩)
      · exact isPassage
      · exact member
  · rw [find?_eq_some_iff afterWellFormed, kept]
    split
    · next isGone =>
      refine iff_of_false ?_ nofun
      rintro ⟨⟨-, apart⟩, same⟩
      exact apart (same.trans isGone)
    · next isOther =>
      rw [find?_eq_some_iff wellFormed]
      refine and_congr_left fun same => and_iff_left ?_
      exact fun isGone => isOther (same.symm.trans isGone)

/-! ## Changing passages -/

/-- Passages that change and keep their titles are found where they were. -/
theorem find?_mapPassages {f : Passage → Passage}
    (sameTitle : ∀ passage, (f passage).title = passage.title) (title : String) :
    (story.mapPassages f).find? title = (story.find? title).map f := by
  unfold find? mapPassages
  rw [sameTitle]
  split
  · rfl
  · rw [stored?, stored?, List.find?_map, Option.map_map, Option.map_map]
    rfl

/-- A passage that takes the place of the one with its title is found instead of it. -/
theorem WellFormed.find?_replace (wellFormed : story.WellFormed) (title : String) :
    (story.replace passage.title passage).find? title =
      if title = passage.title then (story.find? title).map fun _ => passage
      else story.find? title := by
  rw [replace_eq_mapPassages wellFormed, find?_mapPassages]
  · cases found : story.find? title with
    | none => rw [Option.map_none, Option.map_none, ite_self]
    | some old =>
      rw [Option.map_some, Option.map_some, (mem_of_find? wellFormed.keyed found).2, apply_ite some]
  · intro old
    split
    · next same => exact same.symm
    · rfl

/-- An edit of a passage changes what is found by its title, and it changes nothing when
it is refused. -/
theorem WellFormed.find?_edit_passage (wellFormed : story.WellFormed) {edit : Passage.Edit}
    (parts : edit.WellFormed) (target title : String) :
    (story.edit (.passage target edit)).find? title =
      if title = target then (story.find? title).map fun passage => passage.edited edit
      else story.find? title := by
  rw [Story.edit]
  split
  · next missing =>
    split
    · next isTarget => rw [isTarget, missing, Option.map_none]
    · rfl
  · next passage found =>
    rcases mem_of_find? wellFormed.keyed found with ⟨member, rfl⟩
    split
    · next changed edited =>
      have sameTitle := ((wellFormed.passages passage member).edit parts edited).2
      rw [← sameTitle, wellFormed.find?_replace, sameTitle]
      split
      · next isTarget =>
        rw [isTarget, found, Option.map_some, Option.map_some, Passage.edited, edited]
        rfl
      · rfl
    · next refused =>
      split
      · next isTarget =>
        rw [isTarget, found, Option.map_some, Passage.edited, refused]
        rfl
      · rfl

/-- The opening is edited like any other passage. -/
theorem edit_opening (story : Story) (edit : Passage.Edit) :
    story.edit (.opening edit) = story.edit (.passage story.opening.title edit) := by
  have found : story.find? story.opening.title = some story.opening := if_pos rfl
  rw [Story.edit, Story.edit, found]
  simp only
  split
  · rw [Story.replace, if_pos rfl]
  · rfl

/-! ## Edits of a map -/

/-- What the edits of a story do to the passages that are found in it.  Each edit that
is refused leaves the story as it was. -/
structure EditsAgree (story : Story) : Prop where
  taken : ∀ passage, story.add? passage = none ↔ story.contains passage.title = true
  notAdded : ∀ passage, story.add? passage = none → story.edit (.add passage) = story
  added : ∀ passage after, passage.WellFormed → story.add? passage = some after →
    story.edit (.add passage) = after ∧ story.IsAdded passage after
  removable : ∀ key, (story.remove? key).isSome = true ↔ ∃ passage, story.Removable key passage
  notRemoved : ∀ key, story.remove? key = none → story.edit (.remove key) = story
  removed : ∀ key after, story.remove? key = some after →
    story.edit (.remove key) = after ∧
      ∃ passage, story.Removable key passage ∧ story.IsRemoved passage after
  dropped : ∀ target title, (story.edit (.dropLinksTo target)).find? title =
    (story.find? title).map fun passage => passage.dropLinksTo target
  changed : ∀ target edit title, edit.WellFormed →
    (story.edit (.passage target edit)).find? title =
      if title = target then (story.find? title).map fun passage => passage.edited edit
      else story.find? title
  opening : ∀ edit, edit.WellFormed →
    story.edit (.opening edit) = story.edit (.passage story.opening.title edit)

theorem WellFormed.editsAgree (wellFormed : story.WellFormed) : story.EditsAgree where
  taken _ := (add?_eq_none_iff wellFormed.keyed).trans (contains_iff wellFormed.keyed).symm
  notAdded _ refused := by rw [Story.edit, refused, Option.getD_none]
  added _ _ passageWellFormed added := by
    rw [Story.edit, added, Option.getD_some]
    exact ⟨rfl, wellFormed.isAdded passageWellFormed added⟩
  removable key := by
    rw [Option.isSome_iff_exists]
    constructor
    · rintro ⟨after, removed⟩
      exact ((remove?_eq_some_iff wellFormed).mp removed).1
    · exact fun removable => ⟨_, (remove?_eq_some_iff wellFormed).mpr ⟨removable, rfl⟩⟩
  notRemoved _ refused := by rw [Story.edit, refused, Option.getD_none]
  removed _ _ removed := by
    rw [Story.edit, removed, Option.getD_some]
    exact ⟨rfl, wellFormed.isRemoved removed⟩
  dropped target title :=
    find?_mapPassages (f := fun passage => passage.dropLinksTo target) (fun _ => rfl) title
  changed target _ title parts := wellFormed.find?_edit_passage parts target title
  opening edit _ := edit_opening story edit

theorem opening_title_replace (story : Story) {title : String} {passage : Passage}
    (isTitle : passage.title = title) :
    (story.replace title passage).opening.title = story.opening.title := by
  unfold replace
  split
  · next same => exact isTitle.trans same.symm
  · rfl

/-- No edit takes the opening away or gives it another title. -/
theorem WellFormed.opening_title_edit (wellFormed : story.WellFormed) {edit : Edit}
    (parts : edit.WellFormed) : (story.edit edit).opening.title = story.opening.title := by
  cases edit with
  | add passage =>
    rw [Story.edit]
    cases added : story.add? passage with
    | none => rfl
    | some after => rw [Option.getD_some, (stored_of_add? wellFormed.keyed added).2.1]
  | remove key =>
    rw [Story.edit]
    cases removed : story.remove? key with
    | none => rfl
    | some after =>
      rcases wellFormed.isRemoved removed with ⟨passage, -, isRemoved⟩
      rw [Option.getD_some, isRemoved.opening]
  | dropLinksTo title => rfl
  | passage title edit =>
    rw [Story.edit]
    split
    · rfl
    · next passage found =>
      split
      · next changed edited =>
        rcases mem_of_find? wellFormed.keyed found with ⟨member, rfl⟩
        exact opening_title_replace story
          ((wellFormed.passages passage member).edit parts edited).2
      · rfl
  | opening edit =>
    rw [Story.edit]
    split
    · next opening edited =>
      exact ((wellFormed.passages story.opening List.mem_cons_self).edit parts edited).2
    · rfl

/-- A run of edits keeps a story well-formed, and its opening has the title that it
always had. -/
theorem WellFormed.edits (wellFormed : story.WellFormed) {edits : List Edit}
    (parts : ∀ edit ∈ edits, edit.WellFormed) :
    (edits.foldl Story.edit story).WellFormed ∧
      (edits.foldl Story.edit story).opening.title = story.opening.title := by
  induction edits generalizing story with
  | nil => exact ⟨wellFormed, rfl⟩
  | cons first edits ih =>
    rcases List.forall_mem_cons.mp parts with ⟨isFirst, others⟩
    rcases ih (wellFormed.edit isFirst) others with ⟨kept, sameTitle⟩
    exact ⟨kept, sameTitle.trans (wellFormed.opening_title_edit isFirst)⟩

end

/-- Whatever edits are made to a story, it is a map from titles to passages: all ways to
look at its passages agree, each further edit does to the map what it says, and the
opening is there under the title that it always had. -/
theorem actsAsTitleMap_edits {story : Story} (wellFormed : story.WellFormed) {edits : List Edit}
    (parts : ∀ edit ∈ edits, edit.WellFormed) :
    (edits.foldl edit story).ViewsAgree ∧ (edits.foldl edit story).EditsAgree ∧
      (edits.foldl edit story).opening.title = story.opening.title := by
  rcases wellFormed.edits parts with ⟨kept, sameTitle⟩
  exact ⟨kept.viewsAgree, kept.editsAgree, sameTitle⟩

/-- A quay with its opening only. -/
def quay : Story := ⟨"The quay", ⟨"Quay", "Rain.", .none, false, []⟩, []⟩

/-- The ferry has a link to itself.  It is not removed under a key of which the text is
not its title, nor while the quay has a link to it, but it is once that link is dropped.
The quay is neither added a second time nor removed. -/
def quayEdits : List Edit :=
  [.add ⟨"Ferry", "It waits.", .calm, true, [⟨⟨"Wait", "Ferry"⟩, []⟩]⟩,
    .add ⟨"Quay", "Another quay.", .none, false, []⟩,
    .opening (.addLink ⟨⟨"Board", "Ferry"⟩, []⟩),
    .remove ⟨"Board", "Ferry"⟩,
    .remove (.toPassage "Ferry"),
    .remove (.toPassage "Quay"),
    .passage "Quay" (.dropLinksTo "Ferry"),
    .add ⟨"Boathouse", "Oars.", .none, false, []⟩,
    .remove (.toPassage "Ferry")]

theorem actsAsTitleMap_edits_quay :
    quay.WellFormed ∧ (∀ edit ∈ quayEdits, edit.WellFormed) ∧
      (quayEdits.foldl edit quay).titles = ["Quay", "Boathouse"] ∧
      (quayEdits.foldl edit quay).ViewsAgree ∧ (quayEdits.foldl edit quay).EditsAgree ∧
      (quayEdits.foldl edit quay).opening.title = quay.opening.title :=
  ⟨by decide, by decide, by decide, actsAsTitleMap_edits (by decide) (by decide)⟩

end Story

end Gamebook
