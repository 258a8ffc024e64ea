import Mathlib.Data.List.Nodup
import Mathlib.Data.List.Perm.Subperm
import Gamebook.Proofs.Document.RoundTrip
import Gamebook.Proofs.Script.RoundTrip

namespace Gamebook

/-!
# What it is for stories to be identical

Two comparisons of stories walk through their parts.  One looks at every field; it
takes the passages of the first story one by one, looks each up in the second, and
compares the links side by side up to the end of the shorter list.  The other looks
away from the actions of the links.

Neither walk is an equality as it is written: one side is looked up in the other, and
a list may be cut short.  They come to equalities because the numbers of passages and
of links are compared too, and because a story stores a passage only once.
-/

namespace Passage

/-- Lists of one length agree when the elements do, side by side. -/
theorem agree_iff {α β : Type} {same : α → α → Bool} {f : α → β}
    (decides : ∀ x y, same x y = true ↔ f x = f y) {xs ys : List α} :
    xs.length = ys.length ∧ agree same xs ys = true ↔ xs.map f = ys.map f := by
  induction xs generalizing ys with
  | nil =>
    cases ys with
    | nil => exact iff_of_true ⟨rfl, rfl⟩ rfl
    | cons y ys => exact iff_of_false (fun both => nomatch both.1) nofun
  | cons x xs ih =>
    cases ys with
    | nil => exact iff_of_false (fun both => nomatch both.1) nofun
    | cons y ys =>
      rw [List.length_cons, List.length_cons, Nat.succ_inj, agree, Bool.and_eq_true, and_left_comm,
        ih, decides, List.map_cons, List.map_cons, List.cons.injEq]

end Passage

/-! ## Without the actions -/

namespace Link

/-- The choice alone, without what it brings. -/
def bare (link : Link) : Link := link.withActions []

theorem alike_iff (a b : Link) : a.alike b = true ↔ a.bare = b.bare := by
  rw [alike, decide_eq_true_eq, bare, bare, withActions, withActions, Link.mk.injEq,
    and_iff_left rfl]

theorem identical_iff (a b : Link) : a.identical b = true ↔ a = b := by
  rcases a with ⟨key, actions⟩
  rcases b with ⟨key', actions'⟩
  rw [identical, Bool.and_eq_true, decide_eq_true_eq, decide_eq_true_eq, Link.mk.injEq]

end Link

namespace Passage

/-- The passage with every list of actions emptied. -/
def bare (passage : Passage) : Passage := { passage with links := passage.links.map Link.bare }

theorem alike_iff (a b : Passage) : a.alike b = true ↔ a.bare = b.bare := by
  simp only [alike, Bool.and_eq_true, decide_eq_true_eq, bare, Passage.mk.injEq, and_assoc]
  exact and_congr_right fun _ => and_congr_right fun _ => and_congr_right fun _ =>
    and_congr_right fun _ => agree_iff Link.alike_iff

/-- Passages are identical when they are the same.  That no link is passed over comes
from the other comparison, which is made first. -/
theorem identical_iff {a b : Passage} : a.identical b = true ↔ a = b := by
  constructor
  · intro same
    rw [identical, Bool.and_eq_true] at same
    rcases Passage.mk.inj ((alike_iff a b).mp same.1) with
      ⟨title, content, mood, singleVisit, links⟩
    have length : a.links.length = b.links.length := ((agree_iff Link.alike_iff).mpr links).1
    have sameLinks : a.links.map id = b.links.map id :=
      (agree_iff Link.identical_iff).mp ⟨length, same.2⟩
    rw [List.map_id, List.map_id] at sameLinks
    rcases a with ⟨_, _, _, _, _⟩
    rcases b with ⟨_, _, _, _, _⟩
    rw [Passage.mk.injEq]
    exact ⟨title, content, mood, singleVisit, sameLinks⟩
  · rintro rfl
    exact identical_self a

theorem WellFormed.bare {passage : Passage} (wellFormed : passage.WellFormed) :
    passage.bare.WellFormed where
  title := wellFormed.title
  content := wellFormed.content
  links := by
    intro link member
    rcases List.mem_map.mp member with ⟨old, listed, rfl⟩
    exact (wellFormed.links old listed).withActions (List.forall_mem_nil _)
  keys := by
    rw [Passage.bare, List.map_map]
    exact wellFormed.keys

end Passage

namespace Story

/-- The story with every list of actions emptied. -/
def bare (story : Story) : Story := story.mapPassages Passage.bare

theorem WellFormed.bare {story : Story} (wellFormed : story.WellFormed) : story.bare.WellFormed :=
  wellFormed.mapPassages (fun _ => rfl) fun passage member =>
    (wellFormed.passages passage member).bare

/-- Stories are alike when they are the same without their actions. -/
theorem alike_iff (a b : Story) : a.alike b = true ↔ a.bare = b.bare := by
  have sameEntry (x y : LinkKey × Passage) :
      (decide (x.1 = y.1) && x.2.alike y.2) = true ↔ (x.1, x.2.bare) = (y.1, y.2.bare) := by
    rw [Bool.and_eq_true, decide_eq_true_eq, Passage.alike_iff, Prod.mk.injEq]
  simp only [alike, Bool.and_eq_true, decide_eq_true_eq, bare, mapPassages, Story.mk.injEq,
    and_assoc, Passage.alike_iff a.opening]
  exact and_congr_right fun _ => and_congr_right fun _ => Passage.agree_iff sameEntry

/-! ## With everything -/

/-- What is found identical in a story is filed there, under the same key. -/
theorem subset_of_identical {a b : Story} (same : a.identical b = true) :
    a.filed ⊆ b.filed := by
  simp only [identical, Bool.and_eq_true, List.all_eq_true] at same
  intro entry member
  have found := same.2 entry member
  split at found
  · next other isStored =>
    rcases Option.map_eq_some_iff.mp isStored with ⟨filed, hit, rfl⟩
    have isKey := List.find?_some hit
    have sameKey : filed.1 = entry.1 := of_decide_eq_true isKey
    have sameEntry : entry = filed := Prod.ext sameKey.symm (Passage.identical_iff.mp found)
    rw [sameEntry]
    exact List.mem_of_find?_eq_some hit
  · cases found

/-- Stories are identical when they are the same.  The passages of one are stored in
the other, each once, and they are as many, so they are all that is stored there. -/
theorem identical_iff {a b : Story} (wellFormed : a.WellFormed) (wellFormed' : b.WellFormed) :
    a.identical b = true ↔ a = b := by
  constructor
  · intro same
    have subset := subset_of_identical same
    simp only [identical, Bool.and_eq_true, decide_eq_true_eq, Passage.identical_iff] at same
    rcases same with ⟨⟨⟨title, opening⟩, length⟩, -⟩
    have distinct : a.filed.Nodup := by
      have titles := wellFormed.ordered.nodup_map
      exact List.Nodup.of_map Prod.snd (List.Nodup.of_map Passage.title titles)
    have perm : a.stored.Perm b.stored :=
      ((distinct.subperm subset).perm_of_length_le (Nat.le_of_eq length.symm)).map Prod.snd
    have stored := wellFormed.ordered.eq_of_perm wellFormed'.ordered perm
    exact wellFormed.keyed.ext wellFormed'.keyed title opening stored
  · rintro rfl
    exact identical_self wellFormed

/-- What is read back tells stories apart, in both forms. -/
theorem script_injective {a b : Story} (wellFormed : a.WellFormed) (wellFormed' : b.WellFormed) :
    a.script = b.script ↔ a = b := by
  constructor
  · intro same
    have read := ofScript_of_wellFormed wellFormed
    rw [same, ofScript_of_wellFormed wellFormed'] at read
    exact (Except.ok.inj read).symm
  · exact congrArg script

theorem toJson_injective {a b : Story} (wellFormed : a.WellFormed) (wellFormed' : b.WellFormed) :
    a.toJson = b.toJson ↔ a = b := by
  constructor
  · intro same
    have read := decode_toJson wellFormed
    rw [same, decode_toJson wellFormed'] at read
    exact (Except.ok.inj read).symm
  · exact congrArg toJson

/-- To be identical is to be the same story, which shows in the script and in the
document alike; and to be alike is to be identical once the actions are taken away. -/
theorem identical_exact {a b : Story} (wellFormed : a.WellFormed) (wellFormed' : b.WellFormed) :
    (a.identical b = true ↔ a = b) ∧ (a.identical b = true ↔ a.script = b.script) ∧
      (a.script = b.script ↔ a.toJson = b.toJson) ∧
      a.identical a = true ∧ a.identical b = b.identical a ∧
      (∀ c : Story, c.WellFormed → a.identical b = true → b.identical c = true →
        a.identical c = true) ∧
      (a.alike b = true ↔ a.bare.identical b.bare = true) := by
  have isSame := identical_iff wellFormed wellFormed'
  refine ⟨isSame, ?_, ?_, identical_self wellFormed, ?_, ?_, ?_⟩
  · rw [isSame, script_injective wellFormed wellFormed']
  · rw [script_injective wellFormed wellFormed', toJson_injective wellFormed wellFormed']
  · rw [Bool.eq_iff_iff, isSame, identical_iff wellFormed' wellFormed, eq_comm]
  · intro c wellFormed'' first second
    rw [isSame.mp first]
    exact second
  · rw [alike_iff, identical_iff wellFormed.bare wellFormed'.bare]

/-- Stories that differ in what a link costs. -/
def bridge (cost : Int) : Story where
  title := "The bridge"
  opening := ⟨"Bank", "Fog.", .none, false, [⟨⟨"Cross", "Far bank"⟩, [.change .gold cost]⟩]⟩
  filed := filing [⟨"Far bank", "Grass.", .calm, true, [⟨⟨"Return", "Bank"⟩, []⟩]⟩]

/-- Two costs make two stories, which both forms tell apart; they are alike. -/
theorem identical_exact_bridge :
    (bridge (-1)).WellFormed ∧ (bridge (-2)).WellFormed ∧
      (bridge (-1)).script ≠ (bridge (-2)).script ∧
      (bridge (-1)).toJson ≠ (bridge (-2)).toJson ∧
      (bridge (-1)).bare.identical (bridge (-2)).bare = true := by
  have wellFormed : (bridge (-1)).WellFormed := by decide
  have wellFormed' : (bridge (-2)).WellFormed := by decide
  have different : (bridge (-1)).identical (bridge (-2)) ≠ true := by decide
  rcases identical_exact wellFormed wellFormed' with
    ⟨-, inScript, inBoth, -, -, -, withoutActions⟩
  refine ⟨wellFormed, wellFormed', mt inScript.mpr different, ?_, withoutActions.mp (by decide)⟩
  intro same
  exact different (inScript.mpr (inBoth.mpr same))

end Story
end Gamebook
