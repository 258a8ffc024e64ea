import Gamebook.Ordered
import Gamebook.Passage

namespace Gamebook

/-!
# Stories

A story is a graph of passages with one distinguished opening.  The opening is
held apart from the stored passages, and all of them share one set of titles.
The stored passages are filed under keys and in ascending order of these, so a
story does not remember the order in which they were added.

A passage is put under the key that its title makes, and that key is kept beside it.
Nothing but the operations sees to it that the two go on agreeing while passages
are added, removed and changed.
-/

/-- A titled graph of passages, of which all but the opening are filed under keys. -/
structure Story where
  title : String
  opening : Passage
  filed : List (LinkKey × Passage)
  deriving DecidableEq, Repr

namespace Story

/-- Each passage with the key that its title makes. -/
def filing (passages : List Passage) : List (LinkKey × Passage) :=
  passages.map fun passage => (.toPassage passage.title, passage)

def create (title : String) (opening : Passage) : Except Violation Story := do
  Rule.text "story title" Limits.storyTitle title
  .ok { title, opening, filed := [] }

/-- The stored passages, in the order of their keys. -/
def stored (story : Story) : List Passage := story.filed.map Prod.snd

/-- Every passage, the opening first. -/
def passages (story : Story) : List Passage := story.opening :: story.stored

def size (story : Story) : Nat := story.passages.length

def titles (story : Story) : List String := story.passages.map Passage.title

/-- The passage that is filed under a key.  The opening is not among them. -/
def stored? (story : Story) (key : LinkKey) : Option Passage :=
  (story.filed.find? fun entry => entry.1 = key).map Prod.snd

/-- The passage with the title, the opening included. -/
def find? (story : Story) (title : String) : Option Passage :=
  if story.opening.title = title then some story.opening else story.stored? (.toPassage title)

/-- Says whether the title names a passage of the story. -/
def contains (story : Story) (title : String) : Bool :=
  story.opening.title = title || (story.stored? (.toPassage title)).isSome

/-- The story with one more passage, or nothing when its title is taken. -/
def add? (story : Story) (passage : Passage) : Option Story :=
  if story.contains passage.title then none
  else
    some { story with
      filed := insertBy Prod.fst (LinkKey.toPassage passage.title, passage) story.filed }

/-- Says whether a passage other than the one with this title links to it. -/
def isReferenced (story : Story) (title : String) : Bool :=
  story.passages.any fun passage =>
    passage.title ≠ title && passage.links.any fun link => link.reference = title

/-- The story without the passage under the key, or nothing when the key names
the opening, names no stored passage, or another passage links to it. -/
def remove? (story : Story) (key : LinkKey) : Option Story :=
  if key.reference = story.opening.title then none
  else if (story.stored? key).isNone then none
  else if story.isReferenced key.reference then none
  else some { story with filed := story.filed.filter fun entry => entry.1 ≠ key }

/-- Change every passage.  Each stays under its key. -/
def mapPassages (story : Story) (f : Passage → Passage) : Story :=
  { story with
    opening := f story.opening
    filed := story.filed.map fun entry => (entry.1, f entry.2) }

/-- Remove the links that lead to the title from all passages: how many they were, and
the story without them. -/
def removeLinksTo (story : Story) (title : String) : Nat × Story :=
  (story.passages.foldr (fun passage count => (passage.removeLinksTo title).1 + count) 0,
    story.mapPassages fun passage => (passage.removeLinksTo title).2)

/-- The number of links, in all passages, that lead to the title. -/
def linksTo (story : Story) (title : String) : Nat := (story.removeLinksTo title).1

/-- The story without the links that lead to the title. -/
def dropLinksTo (story : Story) (title : String) : Story := (story.removeLinksTo title).2

/-- The story with a passage in the place of the one that the title leads to.  The
opening is looked at first. -/
def replace (story : Story) (title : String) (passage : Passage) : Story :=
  if story.opening.title = title then { story with opening := passage }
  else
    { story with
      filed := story.filed.map fun entry =>
        if entry.1 = .toPassage title then (entry.1, passage) else entry }

/-! ## Edits -/

/-- A change to a story. -/
inductive Edit
  | add (passage : Passage)
  | remove (key : LinkKey)
  | dropLinksTo (title : String)
  | passage (title : String) (edit : Passage.Edit)
  | opening (edit : Passage.Edit)
  deriving Repr

/-- The story after an edit.  An edit that is refused changes nothing. -/
def edit (story : Story) : Edit → Story
  | .add passage => (story.add? passage).getD story
  | .remove key => (story.remove? key).getD story
  | .dropLinksTo title => story.dropLinksTo title
  | .passage title edit =>
    match story.find? title with
    | none => story
    | some passage =>
      match passage.edit edit with
      | .ok passage => story.replace title passage
      | .error _ => story
  | .opening edit =>
    match story.opening.edit edit with
    | .ok opening => { story with opening }
    | .error _ => story

/-- What is asked of the parts that an edit brings: a passage or a link that is
added was made by the library. -/
def Edit.WellFormed : Edit → Prop
  | .add new => new.WellFormed
  | .passage _ edit | .opening edit => edit.WellFormed
  | .remove _ | .dropLinksTo _ => True

instance Edit.decidableWellFormed (edit : Edit) : Decidable edit.WellFormed :=
  match edit with
  | .add new => inferInstanceAs (Decidable new.WellFormed)
  | .passage _ edit | .opening edit => inferInstanceAs (Decidable edit.WellFormed)
  | .remove _ | .dropLinksTo _ => inferInstanceAs (Decidable True)

/-! ## Comparison -/

/-- Says whether the stories agree in all but the actions of their links. -/
def alike (a b : Story) : Bool :=
  a.title = b.title && a.opening.alike b.opening && a.filed.length = b.filed.length &&
    Passage.agree (fun x y => x.1 = y.1 && x.2.alike y.2) a.filed b.filed

/-- Says whether the stories agree in every field: the titles and openings do,
they store equally many passages, and under each key of the first there is the
identical passage in the second. -/
def identical (a b : Story) : Bool :=
  a.title = b.title && a.opening.identical b.opening && a.filed.length = b.filed.length &&
    a.filed.all fun entry =>
      match b.stored? entry.1 with
      | some other => entry.2.identical other
      | none => false

/-- Says that every stored passage is under the key that its title makes. -/
def KeyedByTitle (story : Story) : Prop :=
  ∀ entry ∈ story.filed, entry.1 = .toPassage entry.2.title

/-- What holds of every story that the library makes: each text follows its
rule, titles are distinct, and the stored passages are in order and under their
own keys. -/
structure WellFormed (story : Story) : Prop where
  title : Rule.text "story title" Limits.storyTitle story.title = .ok ()
  passages : ∀ passage ∈ story.passages, passage.WellFormed
  keyed : story.KeyedByTitle
  ordered : Ascending Passage.title story.stored
  openingApart : ∀ passage ∈ story.stored, passage.title ≠ story.opening.title

theorem wellFormed_iff {story : Story} :
    story.WellFormed ↔
      Rule.text "story title" Limits.storyTitle story.title = .ok () ∧
        (∀ passage ∈ story.passages, passage.WellFormed) ∧
          (∀ entry ∈ story.filed, entry.1 = .toPassage entry.2.title) ∧
            story.stored.Pairwise (fun a b => a.title < b.title) ∧
              ∀ passage ∈ story.stored, passage.title ≠ story.opening.title :=
  ⟨fun h => ⟨h.title, h.passages, h.keyed, h.ordered, h.openingApart⟩,
    fun h => ⟨h.1, h.2.1, h.2.2.1, h.2.2.2.1, h.2.2.2.2⟩⟩

instance decidableWellFormed (story : Story) : Decidable story.WellFormed :=
  decidable_of_iff _ wellFormed_iff.symm

/-! ## Passages and their keys -/

@[simp] theorem map_snd_filing (passages : List Passage) :
    (filing passages).map Prod.snd = passages := by
  rw [filing, List.map_map]
  exact List.map_id _

@[simp] theorem stored_filing (title : String) (opening : Passage) (passages : List Passage) :
    stored ⟨title, opening, filing passages⟩ = passages :=
  map_snd_filing passages

theorem keyedByTitle_filing (title : String) (opening : Passage) (passages : List Passage) :
    KeyedByTitle ⟨title, opening, filing passages⟩ := by
  intro entry member
  rcases List.mem_map.mp member with ⟨passage, _, rfl⟩
  rfl

/-- The keys are kept beside the passages, and when they are the passages' own the
passages tell them. -/
theorem KeyedByTitle.filed_eq {story : Story} (keyed : story.KeyedByTitle) :
    story.filed = filing story.stored := by
  rw [filing, stored, List.map_map]
  refine ((List.map_congr_left fun entry member => ?_).trans (List.map_id _)).symm
  exact Prod.ext (keyed entry member).symm rfl

/-- A story with its own keys is told by its title, its opening and what it stores. -/
theorem KeyedByTitle.ext {story other : Story} (keyed : story.KeyedByTitle)
    (keyed' : other.KeyedByTitle) (title : story.title = other.title)
    (opening : story.opening = other.opening) (stored : story.stored = other.stored) :
    story = other := by
  have filed : story.filed = other.filed := by rw [keyed.filed_eq, keyed'.filed_eq, stored]
  rcases story with ⟨_, _, _⟩
  rcases other with ⟨_, _, _⟩
  rw [Story.mk.injEq]
  exact ⟨title, opening, filed⟩

/-- Putting a passage under its own key puts it where its title belongs. -/
theorem insertBy_filing (passage : Passage) (passages : List Passage) :
    insertBy Prod.fst (LinkKey.toPassage passage.title, passage) (filing passages) =
      filing (insertBy Passage.title passage passages) := by
  induction passages with
  | nil => rfl
  | cons first others ih =>
    rw [filing] at ih
    simp only [filing, List.map_cons, insertBy, LinkKey.toPassage_lt_iff, ih]
    split
    · rfl
    · split <;> rfl

/-- Under a key there is the first passage of which it is the own key. -/
theorem KeyedByTitle.stored?_eq {story : Story} (keyed : story.KeyedByTitle) (key : LinkKey) :
    story.stored? key =
      story.stored.find? fun passage => LinkKey.toPassage passage.title = key := by
  rw [stored?, keyed.filed_eq, filing, List.find?_map, Option.map_map]
  exact Option.map_id_apply

/-! ## Finding passages by their titles -/

section

variable {story : Story}

/-- A passage that is found is one of the story's and has the title. -/
theorem mem_of_find? (keyed : story.KeyedByTitle) {title : String} {passage : Passage}
    (found : story.find? title = some passage) :
    passage ∈ story.passages ∧ passage.title = title := by
  unfold find? at found
  split at found
  · next atOpening =>
    cases found
    exact ⟨List.mem_cons_self, atOpening⟩
  · rw [keyed.stored?_eq] at found
    have member := List.mem_of_find?_eq_some found
    have same := List.find?_some found
    exact ⟨List.mem_cons_of_mem _ member, LinkKey.toPassage_inj.mp (of_decide_eq_true same)⟩

theorem isSome_find?_iff (keyed : story.KeyedByTitle) {title : String} :
    (story.find? title).isSome = true ↔ title ∈ story.titles := by
  constructor
  · intro isSome
    rcases Option.isSome_iff_exists.mp isSome with ⟨passage, found⟩
    rcases mem_of_find? keyed found with ⟨member, rfl⟩
    exact List.mem_map_of_mem member
  · intro named
    rcases List.mem_map.mp named with ⟨passage, member, rfl⟩
    unfold find?
    split
    · rfl
    · next notOpening =>
      rcases List.mem_cons.mp member with rfl | stored
      · exact absurd rfl notOpening
      · rw [keyed.stored?_eq, List.find?_isSome]
        exact ⟨passage, stored, decide_eq_true rfl⟩

theorem contains_eq_isSome_find? (story : Story) (title : String) :
    story.contains title = (story.find? title).isSome := by
  rw [contains, find?]
  by_cases atOpening : story.opening.title = title <;> simp [atOpening]

theorem contains_iff (keyed : story.KeyedByTitle) {title : String} :
    story.contains title = true ↔ title ∈ story.titles := by
  rw [contains_eq_isSome_find?, isSome_find?_iff keyed]

/-- A stored passage is filed under its own title, and nothing else is filed. -/
theorem stored?_eq_some_iff (keyed : story.KeyedByTitle)
    (ordered : Ascending Passage.title story.stored) {key : LinkKey} {passage : Passage} :
    story.stored? key = some passage ↔
      passage ∈ story.stored ∧ key = .toPassage passage.title := by
  rw [keyed.stored?_eq]
  constructor
  · intro found
    have same := List.find?_some found
    exact ⟨List.mem_of_find?_eq_some found, (of_decide_eq_true same).symm⟩
  · rintro ⟨member, rfl⟩
    have found := ordered.find?_eq_some member
    simpa only [LinkKey.toPassage_inj] using found

theorem WellFormed.stored?_eq_some_iff (wellFormed : story.WellFormed) {key : LinkKey}
    {passage : Passage} :
    story.stored? key = some passage ↔
      passage ∈ story.stored ∧ key = .toPassage passage.title :=
  Story.stored?_eq_some_iff wellFormed.keyed wellFormed.ordered

/-- In a well-formed story a passage is found by its title. -/
theorem find?_of_mem (wellFormed : story.WellFormed) {passage : Passage}
    (member : passage ∈ story.passages) : story.find? passage.title = some passage := by
  rcases List.mem_cons.mp member with rfl | stored
  · exact if_pos rfl
  · rw [find?, if_neg fun same => wellFormed.openingApart passage stored same.symm]
    exact wellFormed.stored?_eq_some_iff.mpr ⟨stored, rfl⟩

end

/-! ## Building -/

theorem create_eq_ok_iff {title : String} {opening : Passage} {story : Story} :
    create title opening = .ok story ↔
      Rule.text "story title" Limits.storyTitle title = .ok () ∧ story = ⟨title, opening, []⟩ := by
  rw [create, seq_eq_ok_iff, Except.ok.injEq, eq_comm (a := story)]

/-- A passage is added when its title is free. -/
theorem add?_eq_some_iff {story after : Story} (keyed : story.KeyedByTitle) {passage : Passage} :
    story.add? passage = some after ↔
      passage.title ∉ story.titles ∧
        after = { story with filed := filing (insertBy Passage.title passage story.stored) } := by
  rw [← contains_iff keyed, add?, ← insertBy_filing, ← keyed.filed_eq]
  split
  · next taken => simp [taken]
  · next free => simp [free, eq_comm (a := after)]

theorem add?_eq_none_iff {story : Story} (keyed : story.KeyedByTitle) {passage : Passage} :
    story.add? passage = none ↔ passage.title ∈ story.titles := by
  rw [← contains_iff keyed, add?]
  split
  · next taken => simp [taken]
  · next free => simp [free]

/-- A passage that is added is put under its own key. -/
theorem keyedByTitle_of_add? {story after : Story} (keyed : story.KeyedByTitle) {passage : Passage}
    (added : story.add? passage = some after) : after.KeyedByTitle := by
  rcases (add?_eq_some_iff keyed).mp added with ⟨-, rfl⟩
  exact keyedByTitle_filing _ _ _

/-- A passage that is added comes to those that are stored. -/
theorem stored_of_add? {story after : Story} (keyed : story.KeyedByTitle) {passage : Passage}
    (added : story.add? passage = some after) :
    after.title = story.title ∧ after.opening = story.opening ∧
      after.stored.Perm (passage :: story.stored) := by
  rcases (add?_eq_some_iff keyed).mp added with ⟨free, rfl⟩
  rw [stored_filing]
  refine ⟨rfl, rfl, insertBy_perm _ fun other member same => ?_⟩
  exact free (List.mem_cons_of_mem _ (same ▸ List.mem_map_of_mem member))

theorem ordered_of_add? {story after : Story} (keyed : story.KeyedByTitle) {passage : Passage}
    (ordered : Ascending Passage.title story.stored) (added : story.add? passage = some after) :
    Ascending Passage.title after.stored := by
  rcases (add?_eq_some_iff keyed).mp added with ⟨-, rfl⟩
  rw [stored_filing]
  exact insertBy_ascending _ _ ordered

theorem passages_of_add? {story after : Story} (keyed : story.KeyedByTitle) {passage : Passage}
    (added : story.add? passage = some after) :
    after.passages.Perm (passage :: story.passages) := by
  rcases stored_of_add? keyed added with ⟨-, sameOpening, sameStored⟩
  rw [passages, passages, sameOpening]
  exact (sameStored.cons _).trans (.swap _ _ _)

theorem titles_of_add? {story after : Story} (keyed : story.KeyedByTitle) {passage : Passage}
    (added : story.add? passage = some after) :
    after.titles.Perm (passage.title :: story.titles) :=
  (passages_of_add? keyed added).map Passage.title

/-- Passages are all added when no two titles are the same.  They come to those
that are stored, and nothing else changes. -/
theorem foldlM_add?_eq_some_iff {story after : Story} (keyed : story.KeyedByTitle)
    {passages : List Passage} (ordered : Ascending Passage.title story.stored)
    (distinct : story.titles.Nodup) :
    passages.foldlM add? story = some after ↔
      (story.titles ++ passages.map Passage.title).Nodup ∧ after.title = story.title ∧
        after.opening = story.opening ∧ after.KeyedByTitle ∧
          after.stored.Perm (story.stored ++ passages) ∧
            Ascending Passage.title after.stored := by
  induction passages generalizing story with
  | nil =>
    simp only [List.foldlM_nil, List.map_nil, List.append_nil, distinct, true_and]
    constructor
    · rintro ⟨⟩
      exact ⟨rfl, rfl, keyed, .refl _, ordered⟩
    · rintro ⟨title, opening, keyed', same, ordered'⟩
      exact congrArg some
        (keyed.ext keyed' title.symm opening.symm (ordered'.eq_of_perm ordered same).symm)
  | cons passage passages ih =>
    rw [List.foldlM_cons]
    cases added : story.add? passage with
    | none =>
      have taken := (add?_eq_none_iff keyed).mp added
      refine iff_of_false nofun fun all => ?_
      exact (List.nodup_append.mp all.1).2.2 _ taken _ List.mem_cons_self rfl
    | some next =>
      rcases stored_of_add? keyed added with ⟨sameTitle, sameOpening, sameStored⟩
      have free := ((add?_eq_some_iff keyed).mp added).1
      have distinct' : next.titles.Nodup :=
        (titles_of_add? keyed added).nodup_iff.mpr (List.nodup_cons.mpr ⟨free, distinct⟩)
      have titles : (next.titles ++ passages.map Passage.title).Perm
          (story.titles ++ (passage :: passages).map Passage.title) :=
        ((titles_of_add? keyed added).append_right _).trans List.perm_middle.symm
      have stored : (next.stored ++ passages).Perm (story.stored ++ passage :: passages) :=
        (sameStored.append_right passages).trans List.perm_middle.symm
      refine (ih (keyedByTitle_of_add? keyed added) (ordered_of_add? keyed ordered added)
        distinct').trans ?_
      rw [titles.nodup_iff, sameTitle, sameOpening]
      exact and_congr_right fun _ => and_congr_right fun _ => and_congr_right fun _ =>
        and_congr_right fun _ => and_congr_left fun _ =>
          ⟨fun same => same.trans stored, fun same => same.trans stored.symm⟩

/-- Passages are all added to a story that has nothing but its opening when no two
titles are the same. -/
theorem foldlM_add?_create_iff {title : String} {opening : Passage} {others : List Passage}
    {story : Story} :
    others.foldlM add? ⟨title, opening, []⟩ = some story ↔
      ((opening :: others).map Passage.title).Nodup ∧ story.title = title ∧
        story.opening = opening ∧ story.KeyedByTitle ∧ story.stored.Perm others ∧
          Ascending Passage.title story.stored :=
  foldlM_add?_eq_some_iff (keyedByTitle_filing title opening []) .nil
    (List.pairwise_singleton _ _)

/-- A passage whose title comes after all that are stored is stored last. -/
theorem add?_of_above {story : Story} (keyed : story.KeyedByTitle) {passage : Passage}
    (apart : passage.title ≠ story.opening.title)
    (above : ∀ other ∈ story.stored, other.title < passage.title) :
    story.add? passage = some { story with filed := filing (story.stored ++ [passage]) } := by
  rw [add?_eq_some_iff keyed, insertBy_of_above Passage.title above, and_iff_left rfl]
  intro named
  rcases List.mem_map.mp named with ⟨other, member, same⟩
  rcases List.mem_cons.mp member with rfl | stored
  · exact apart same.symm
  · exact String.lt_irrefl _ (same ▸ above other stored)

/-! ## Staying well-formed -/

/-- No two passages of a well-formed story have the same title. -/
theorem WellFormed.titles_nodup {story : Story} (wellFormed : story.WellFormed) :
    story.titles.Nodup := by
  rw [titles, Story.passages, List.map_cons, List.nodup_cons, List.mem_map]
  constructor
  · rintro ⟨passage, member, same⟩
    exact wellFormed.openingApart passage member same
  · exact wellFormed.ordered.nodup_map

theorem wellFormed_of_create {title : String} {opening : Passage} {story : Story}
    (openingWellFormed : opening.WellFormed) (created : create title opening = .ok story) :
    story.WellFormed := by
  rcases create_eq_ok_iff.mp created with ⟨isTitle, rfl⟩
  exact ⟨isTitle, List.forall_mem_singleton.mpr openingWellFormed, List.forall_mem_nil _, .nil,
    List.forall_mem_nil _⟩

theorem WellFormed.add? {story after : Story} (wellFormed : story.WellFormed) {passage : Passage}
    (passageWellFormed : passage.WellFormed) (added : story.add? passage = some after) :
    after.WellFormed := by
  have keyed := keyedByTitle_of_add? wellFormed.keyed added
  have ordered := ordered_of_add? wellFormed.keyed wellFormed.ordered added
  have free := ((add?_eq_some_iff wellFormed.keyed).mp added).1
  rcases stored_of_add? wellFormed.keyed added with ⟨sameTitle, sameOpening, sameStored⟩
  refine ⟨sameTitle ▸ wellFormed.title, ?_, keyed, ordered, ?_⟩
  · intro other member
    rw [Story.passages, sameOpening] at member
    rcases List.mem_cons.mp member with rfl | stored
    · exact wellFormed.passages _ List.mem_cons_self
    · rcases List.mem_cons.mp (sameStored.mem_iff.mp stored) with rfl | old
      · exact passageWellFormed
      · exact wellFormed.passages other (List.mem_cons_of_mem _ old)
  · intro other stored
    rw [sameOpening]
    rcases List.mem_cons.mp (sameStored.mem_iff.mp stored) with rfl | old
    · exact fun same => free (same ▸ List.mem_cons_self)
    · exact wellFormed.openingApart other old

/-- Removing a passage leaves some of those that were stored, under the keys that they
had. -/
theorem WellFormed.remove? {story after : Story} (wellFormed : story.WellFormed) {key : LinkKey}
    (removed : story.remove? key = some after) : after.WellFormed := by
  have kept : ∃ keep : LinkKey × Passage → Bool,
      after = { story with filed := story.filed.filter keep } := by
    unfold Story.remove? at removed
    repeat' split at removed
    all_goals cases removed
    exact ⟨_, rfl⟩
  rcases kept with ⟨keep, rfl⟩
  have fewer : ((story.filed.filter keep).map Prod.snd).Sublist story.stored :=
    List.filter_sublist.map Prod.snd
  refine ⟨wellFormed.title, ?_, ?_, wellFormed.ordered.sublist fewer, ?_⟩
  · intro passage member
    rcases List.mem_cons.mp member with rfl | stored
    · exact wellFormed.passages _ List.mem_cons_self
    · exact wellFormed.passages passage (List.mem_cons_of_mem _ (fewer.subset stored))
  · exact fun entry member => wellFormed.keyed entry (List.mem_filter.mp member).1
  · exact fun passage stored => wellFormed.openingApart passage (fewer.subset stored)

theorem stored_mapPassages (story : Story) (f : Passage → Passage) :
    (story.mapPassages f).stored = story.stored.map f := by
  rw [stored, stored, mapPassages, List.map_map, List.map_map]
  rfl

theorem passages_mapPassages (story : Story) (f : Passage → Passage) :
    (story.mapPassages f).passages = story.passages.map f := by
  rw [passages, stored_mapPassages]
  rfl

/-- The links to a title are removed passage by passage. -/
theorem dropLinksTo_eq_mapPassages (story : Story) (title : String) :
    story.dropLinksTo title = story.mapPassages fun passage => passage.dropLinksTo title :=
  rfl

/-- Passages that change and keep their titles stay under their own keys. -/
theorem KeyedByTitle.mapPassages {story : Story} (keyed : story.KeyedByTitle)
    {f : Passage → Passage} (sameTitle : ∀ passage, (f passage).title = passage.title) :
    (story.mapPassages f).KeyedByTitle := by
  intro entry member
  rcases List.mem_map.mp member with ⟨old, filed, rfl⟩
  rw [sameTitle]
  exact keyed old filed

/-- Passages may change as long as they keep their titles. -/
theorem WellFormed.mapPassages {story : Story} (wellFormed : story.WellFormed)
    {f : Passage → Passage} (sameTitle : ∀ passage, (f passage).title = passage.title)
    (kept : ∀ passage ∈ story.passages, (f passage).WellFormed) :
    (story.mapPassages f).WellFormed where
  title := wellFormed.title
  passages := by
    intro passage member
    rw [passages_mapPassages] at member
    rcases List.mem_map.mp member with ⟨old, listed, rfl⟩
    exact kept old listed
  keyed := wellFormed.keyed.mapPassages sameTitle
  ordered := by
    rw [stored_mapPassages]
    refine List.pairwise_map.mpr (wellFormed.ordered.imp ?_)
    intro a b below
    rw [sameTitle, sameTitle]
    exact below
  openingApart := by
    intro passage member
    rw [stored_mapPassages] at member
    rcases List.mem_map.mp member with ⟨old, stored, rfl⟩
    rw [sameTitle, Story.mapPassages, sameTitle]
    exact wellFormed.openingApart old stored

/-- In a well-formed story a passage takes the place of the one with its title by
changing each passage that has the title. -/
theorem replace_eq_mapPassages {story : Story} (wellFormed : story.WellFormed) (passage : Passage) :
    story.replace passage.title passage =
      story.mapPassages fun old => if old.title = passage.title then passage else old := by
  rw [replace, mapPassages]
  split
  · next atOpening =>
    have untouched : ∀ entry ∈ story.filed,
        (entry.1, if entry.2.title = passage.title then passage else entry.2) = id entry := by
      intro entry member
      have apart := wellFormed.openingApart entry.2 (List.mem_map_of_mem member)
      rw [if_neg fun same => apart (same.trans atOpening.symm)]
      rfl
    rw [List.map_congr_left untouched, List.map_id]
  · congr 1
    refine List.map_congr_left fun entry member => ?_
    have isKey : entry.1 = .toPassage passage.title ↔ entry.2.title = passage.title := by
      rw [wellFormed.keyed entry member, LinkKey.toPassage_inj]
    simp only [isKey]
    split <;> rfl

theorem WellFormed.replace {story : Story} (wellFormed : story.WellFormed) {passage : Passage}
    (passageWellFormed : passage.WellFormed) :
    (story.replace passage.title passage).WellFormed := by
  rw [replace_eq_mapPassages wellFormed]
  apply wellFormed.mapPassages
  · intro old
    split
    · next same => exact same.symm
    · rfl
  · intro old member
    split
    · exact passageWellFormed
    · exact wellFormed.passages old member

/-- Every edit keeps a story well-formed, those that are refused included. -/
theorem WellFormed.edit {story : Story} (wellFormed : story.WellFormed) {edit : Edit}
    (parts : edit.WellFormed) : (story.edit edit).WellFormed := by
  cases edit with
  | add passage =>
    rw [Story.edit]
    cases added : story.add? passage with
    | none => exact wellFormed
    | some after => exact wellFormed.add? parts added
  | remove key =>
    rw [Story.edit]
    cases removed : story.remove? key with
    | none => exact wellFormed
    | some after => exact wellFormed.remove? removed
  | dropLinksTo title =>
    rw [Story.edit, dropLinksTo_eq_mapPassages]
    apply wellFormed.mapPassages
    · exact fun passage => rfl
    · exact fun passage member => (wellFormed.passages passage member).dropLinksTo title
  | passage title edit =>
    rw [Story.edit]
    split
    · exact wellFormed
    · next passage found =>
      split
      · next after edited =>
        rcases mem_of_find? wellFormed.keyed found with ⟨member, rfl⟩
        rcases (wellFormed.passages passage member).edit parts edited with ⟨isPassage, sameTitle⟩
        rw [← sameTitle]
        exact wellFormed.replace isPassage
      · exact wellFormed
  | opening edit =>
    rw [Story.edit]
    split
    · next after edited =>
      have opening := wellFormed.passages story.opening List.mem_cons_self
      rcases opening.edit parts edited with ⟨afterWellFormed, sameTitle⟩
      have replaced := wellFormed.replace afterWellFormed
      rw [Story.replace, if_pos sameTitle.symm] at replaced
      exact replaced
    · exact wellFormed

/-! ## Comparing -/

/-- A well-formed story is identical to itself. -/
theorem identical_self {story : Story} (wellFormed : story.WellFormed) :
    story.identical story = true := by
  have found : (story.filed.all fun entry =>
      match story.stored? entry.1 with
      | some other => entry.2.identical other
      | none => false) = true := by
    rw [List.all_eq_true]
    intro entry member
    have isStored := wellFormed.stored?_eq_some_iff.mpr
      ⟨List.mem_map_of_mem member, wellFormed.keyed entry member⟩
    simp only [isStored, Passage.identical_self]
  rw [identical, found]
  simp

end Story

end Gamebook
