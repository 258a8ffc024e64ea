import Gamebook.Report
import Gamebook.Proofs.Story.Titles

namespace Gamebook

/-!
# Broken links after an edit

A key is broken when some passage offers it and it refers to none.  The list of broken
keys says nothing about where they are offered, so the same one may come from several
passages.  What an edit does to the list is told by its two sides: adding or removing a
passage changes both who offers a key and which titles there are, and it is the
condition for a removal that keeps the second change from breaking anything.

Dropping the links to a title is what makes a removal possible.  It is described by all
links of the story in a row, each with the title of its passage.
-/

/-- The passage with none of its links. -/
def Passage.withoutLinks (passage : Passage) : Passage := { passage with links := [] }

namespace Story

/-- Every link with the title of the passage that it stands on, the opening's links
first. -/
def titledLinks (story : Story) : List (String × Link) :=
  story.linkOccurrences.map fun (passage, link) => (passage.title, link)

/-- Says that a story is another one without the links to a title, and how many there
were. -/
structure IsUnlinked (story : Story) (target : String) (count : Nat) (after : Story) : Prop where
  title : after.title = story.title
  /-- But for their links the passages are what they were. -/
  passages : after.passages.map Passage.withoutLinks = story.passages.map Passage.withoutLinks
  /-- The links that lead elsewhere are left, in their order and with their actions. -/
  links : after.titledLinks = story.titledLinks.filter fun (_, link) => link.reference ≠ target
  counted : count = story.titledLinks.countP fun (_, link) => link.reference = target

section

variable {story after : Story} {passage : Passage} {key : LinkKey}

/-! ## Dropping links -/

theorem titledLinks_eq_flatMap (story : Story) :
    story.titledLinks = story.passages.flatMap fun passage =>
      passage.links.map fun link => (passage.title, link) := by
  rw [titledLinks, linkOccurrences, List.map_flatMap]
  congr 1
  funext passage
  rw [List.map_map]
  rfl

theorem linksTo_eq_countP (story : Story) (target : String) :
    story.linksTo target =
      story.titledLinks.countP fun (_, link) => link.reference = target := by
  rw [titledLinks_eq_flatMap]
  dsimp only [linksTo, removeLinksTo]
  induction story.passages with
  | nil => rfl
  | cons passage others ih =>
    rw [List.foldr_cons, List.flatMap_cons, List.countP_append, ih, List.countP_map]
    congr 1
    exact passage.linksTo_eq_countP target

theorem titledLinks_dropLinksTo (story : Story) (target : String) :
    (story.dropLinksTo target).titledLinks =
      story.titledLinks.filter fun (_, link) => link.reference ≠ target := by
  rw [titledLinks_eq_flatMap, titledLinks_eq_flatMap, dropLinksTo_eq_mapPassages,
    passages_mapPassages, List.flatMap_map, List.filter_flatMap]
  congr 1
  funext passage
  rw [List.filter_map]
  rfl

theorem isUnlinked_dropLinksTo (story : Story) (target : String) :
    story.IsUnlinked target (story.linksTo target) (story.dropLinksTo target) where
  title := rfl
  passages := by
    rw [dropLinksTo_eq_mapPassages, passages_mapPassages, List.map_map]
    rfl
  links := titledLinks_dropLinksTo story target
  counted := linksTo_eq_countP story target

/-- No link to the title is left. -/
theorem linksTo_dropLinksTo (story : Story) (target : String) :
    (story.dropLinksTo target).linksTo target = 0 := by
  rw [linksTo_eq_countP, titledLinks_dropLinksTo, List.countP_eq_zero]
  intro titled kept
  have elsewhere := (List.mem_filter.mp kept).2
  rw [decide_eq_true_eq] at elsewhere ⊢
  exact elsewhere

theorem mapPassages_mapPassages (story : Story) (f g : Passage → Passage) :
    (story.mapPassages f).mapPassages g = story.mapPassages fun passage => g (f passage) := by
  unfold mapPassages
  rw [List.map_map]
  rfl

theorem dropLinksTo_dropLinksTo (story : Story) (target : String) :
    (story.dropLinksTo target).dropLinksTo target = story.dropLinksTo target := by
  rw [dropLinksTo_eq_mapPassages, dropLinksTo_eq_mapPassages, mapPassages_mapPassages]
  congr 1
  funext passage
  unfold Passage.dropLinksTo Passage.removeLinksTo
  simp only [List.filter_filter, Bool.and_self]

/-- Once no link leads to a title, its passage can be removed if it is a stored one. -/
theorem WellFormed.isSome_remove?_dropLinksTo (wellFormed : story.WellFormed) (target : String) :
    ((story.dropLinksTo target).remove? (.toPassage target)).isSome = true ↔
      target ∈ story.stored.map Passage.title := by
  have afterWellFormed : (story.dropLinksTo target).WellFormed :=
    wellFormed.edit (show (Edit.dropLinksTo target).WellFormed from trivial)
  rw [afterWellFormed.editsAgree.removable]
  constructor
  · rintro ⟨passage, stored, isKey, -⟩
    rw [dropLinksTo_eq_mapPassages, stored_mapPassages] at stored
    rcases List.mem_map.mp stored with ⟨old, wasStored, rfl⟩
    have same : target = old.title := LinkKey.toPassage_inj.mp isKey
    rw [same]
    exact List.mem_map_of_mem wasStored
  · intro named
    rcases List.mem_map.mp named with ⟨passage, stored, rfl⟩
    have isStored : passage.dropLinksTo passage.title ∈
        (story.dropLinksTo passage.title).stored := by
      rw [dropLinksTo_eq_mapPassages, stored_mapPassages]
      exact List.mem_map_of_mem stored
    refine ⟨_, isStored, rfl, ?_⟩
    intro other member _ link onOther
    rw [dropLinksTo_eq_mapPassages, passages_mapPassages] at member
    rcases List.mem_map.mp member with ⟨old, _, rfl⟩
    exact of_decide_eq_true (List.mem_filter.mp onOther).2

/-! ## Broken keys -/

/-- A removal breaks no link.  A key that was broken stays so as long as a passage that is
left offers it. -/
theorem WellFormed.mem_brokenLinks_remove?_iff (wellFormed : story.WellFormed) {removed : LinkKey}
    (isRemoved : story.remove? removed = some after) :
    key ∈ after.brokenLinks ↔
      key ∈ story.brokenLinks ∧ ∃ other ∈ after.passages, other.hasLink key = true := by
  rcases (remove?_eq_some_iff wellFormed).mp isRemoved with ⟨⟨passage, removable⟩, isAfter⟩
  have kept (other : Passage) :
      other ∈ after.passages ↔ other ∈ story.passages ∧ other.title ≠ passage.title := by
    rw [isAfter]
    exact removable.mem_passages_iff wellFormed other
  rw [mem_brokenLinks_iff, mem_brokenLinks_iff]
  constructor
  · rintro ⟨⟨other, left, offered⟩, broken⟩
    rcases (kept other).mp left with ⟨member, apart⟩
    refine ⟨⟨⟨other, member, offered⟩, ?_⟩, other, left, offered⟩
    intro named
    rcases List.mem_map.mp (Passage.hasLink_iff.mp offered) with ⟨link, onOther, rfl⟩
    have elsewhere := removable.unlinked other member apart link onOther
    rcases List.mem_map.mp named with ⟨target, isPassage, isTarget⟩
    have targetLeft : target ∈ after.passages := by
      apply (kept target).mpr
      rw [isTarget]
      exact ⟨isPassage, elsewhere⟩
    apply broken
    rw [← isTarget]
    exact List.mem_map_of_mem targetLeft
  · rintro ⟨⟨-, broken⟩, offered⟩
    refine ⟨offered, ?_⟩
    intro named
    rcases List.mem_map.mp named with ⟨target, left, isTarget⟩
    apply broken
    rw [← isTarget]
    exact List.mem_map_of_mem ((kept target).mp left).1

/-- A passage that is added mends the links to its title, and its own links may be
broken. -/
theorem mem_brokenLinks_add?_iff (keyed : story.KeyedByTitle)
    (added : story.add? passage = some after) :
    key ∈ after.brokenLinks ↔
      (key ∈ story.brokenLinks ∧ key.reference ≠ passage.title) ∨
        (passage.hasLink key = true ∧ key.reference ∉ after.titles) := by
  have offered : (∃ other ∈ after.passages, other.hasLink key = true) ↔
      passage.hasLink key = true ∨ ∃ other ∈ story.passages, other.hasLink key = true := by
    simp only [(passages_of_add? keyed added).mem_iff, List.exists_mem_cons_iff]
  have unnamed : key.reference ∉ after.titles ↔
      key.reference ≠ passage.title ∧ key.reference ∉ story.titles := by
    rw [(titles_of_add? keyed added).mem_iff, List.mem_cons, not_or]
  rw [mem_brokenLinks_iff, mem_brokenLinks_iff, offered, or_and_right, or_comm]
  apply or_congr_left
  rw [unnamed, and_comm (a := key.reference ≠ passage.title), and_assoc]

end

/-- Dropping the links to a title takes away just these and says how many there were, so
that the next time there is none, and then the passage with the title can be removed if it
is stored.  Removing a passage breaks no link.  Adding one mends the links to its title and
brings those of its own links that lead to no passage. -/
theorem brokenLinks_of_edits {story : Story} (wellFormed : story.WellFormed) :
    (∀ target,
      story.IsUnlinked target (story.linksTo target) (story.dropLinksTo target) ∧
        (story.dropLinksTo target).linksTo target = 0 ∧
        (story.dropLinksTo target).dropLinksTo target = story.dropLinksTo target ∧
        (((story.dropLinksTo target).remove? (.toPassage target)).isSome = true ↔
          target ∈ story.stored.map Passage.title)) ∧
    (∀ removed after, story.remove? removed = some after →
      after.brokenLinks ⊆ story.brokenLinks) ∧
    (∀ passage after, story.add? passage = some after → ∀ key,
      key ∈ after.brokenLinks ↔
        (key ∈ story.brokenLinks ∧ key.reference ≠ passage.title) ∨
          ∃ link ∈ passage.links, link.key = key ∧ link.reference ∉ after.titles) := by
  refine ⟨?_, ?_, ?_⟩
  · intro target
    exact ⟨isUnlinked_dropLinksTo story target, linksTo_dropLinksTo story target,
      dropLinksTo_dropLinksTo story target, wellFormed.isSome_remove?_dropLinksTo target⟩
  · intro removed after isRemoved key broken
    exact ((wellFormed.mem_brokenLinks_remove?_iff isRemoved).mp broken).1
  · intro passage after added key
    rw [mem_brokenLinks_add?_iff wellFormed.keyed added, Passage.hasLink_iff, List.mem_map]
    apply or_congr_right
    constructor
    · rintro ⟨⟨link, onPassage, rfl⟩, broken⟩
      exact ⟨link, onPassage, rfl, broken⟩
    · rintro ⟨link, onPassage, rfl, broken⟩
      exact ⟨⟨link, onPassage, rfl⟩, broken⟩

/-- From the pier and from the boat one can row to an island that is not there.  The boat
has a link to itself as well. -/
def pier : Story where
  title := "Pier"
  opening := ⟨"Pier", "Wind.", .none, false,
    [⟨⟨"Row", "Island"⟩, []⟩, ⟨⟨"Board", "Boat"⟩, [.change .health (-1)]⟩]⟩
  filed := filing [⟨"Boat", "It rocks.", .none, false,
    [⟨⟨"Wait", "Boat"⟩, []⟩, ⟨⟨"Row", "Island"⟩, [.change .gold 2]⟩]⟩]

def island : Passage := ⟨"Island", "Sand.", .calm, false, [⟨⟨"Dive", "Reef"⟩, []⟩]⟩

/-- The island mends the two links to it and brings a broken one. -/
theorem brokenLinks_of_edits_pier :
    pier.WellFormed ∧ pier.brokenLinks = [⟨"Row", "Island"⟩] ∧
      pier.IsUnlinked "Boat" 2 (pier.dropLinksTo "Boat") ∧
      ((pier.dropLinksTo "Boat").remove? (.toPassage "Boat")).isSome = true ∧
      ∃ after, pier.add? island = some after ∧ ⟨"Dive", "Reef"⟩ ∈ after.brokenLinks ∧
        ⟨"Row", "Island"⟩ ∉ after.brokenLinks := by
  have wellFormed : pier.WellFormed := by decide
  have edits := brokenLinks_of_edits wellFormed
  have boat := edits.1 "Boat"
  have free : (pier.add? island).isSome = true := by decide
  rcases Option.isSome_iff_exists.mp free with ⟨after, added⟩
  have broken := edits.2.2 island after added
  refine ⟨wellFormed, by decide, boat.1, boat.2.2.2.mpr (by decide), after, added, ?_, ?_⟩
  · have nowhere : "Reef" ∉ after.titles := by
      rw [(titles_of_add? wellFormed.keyed added).mem_iff]
      decide
    exact (broken _).mpr (.inr ⟨_, List.mem_cons_self, rfl, nowhere⟩)
  · intro row
    rcases (broken _).mp row with ⟨-, elsewhere⟩ | ⟨link, onIsland, isRow, -⟩
    · exact elsewhere rfl
    · rw [List.mem_singleton.mp onIsland] at isRow
      exact absurd isRow (by decide)

end Story

end Gamebook
