namespace Gamebook

/-!
# Ascending lists

Sets and maps of the library are lists in ascending order of a key, each key
held once.  Two such lists with the same elements are equal, so a story does
not remember in which order its passages arrived.
-/

/-- Insert an element into an ascending list by its key.  An element that has
the same key already stays, and the new one is dropped. -/
def insertBy {α κ : Type} [LT κ] [DecidableLT κ] (key : α → κ) (x : α) : List α → List α
  | [] => [x]
  | y :: ys =>
    if key x < key y then x :: y :: ys
    else if key y < key x then y :: insertBy key x ys
    else y :: ys

/-- The elements in ascending order of their keys.  Where elements share a key
the last of them is kept. -/
def ascendingBy {α κ : Type} [LT κ] [DecidableLT κ] (key : α → κ) (xs : List α) : List α :=
  xs.foldr (insertBy key) []

/-- The values in ascending order, each once. -/
def ascending {κ : Type} [LT κ] [DecidableLT κ] (xs : List κ) : List κ :=
  ascendingBy id xs

/-- An ascending list in which no two keys are the same. -/
def Ascending {α κ : Type} [LT κ] (key : α → κ) (xs : List α) : Prop :=
  xs.Pairwise fun x y => key x < key y

/-- Lists in order are the same when they have the same elements. -/
theorem Ascending.eq_of_perm {α κ : Type} [LT κ] [Std.Asymm (α := κ) (· < ·)] {key : α → κ}
    {xs ys : List α} (orderedLeft : Ascending key xs) (orderedRight : Ascending key ys)
    (same : xs.Perm ys) : xs = ys :=
  List.Perm.eq_of_pairwise (fun _ _ _ _ below above => absurd above (Std.Asymm.asymm _ _ below))
    orderedLeft orderedRight same

/-- No key stands twice in a list in order. -/
theorem Ascending.nodup_map {α κ : Type} [LT κ] [Std.Irrefl (α := κ) (· < ·)] {key : α → κ}
    {xs : List α} (ordered : Ascending key xs) : (xs.map key).Nodup := by
  refine List.pairwise_map.mpr (ordered.imp ?_)
  intro x y below same
  rw [same] at below
  exact Std.Irrefl.irrefl (key y) below

/-- In a list in order an element is found by its key. -/
theorem Ascending.find?_eq_some {α κ : Type} [LT κ] [DecidableEq κ] [Std.Irrefl (α := κ) (· < ·)]
    {key : α → κ} {xs : List α} (ordered : Ascending key xs) {x : α} (member : x ∈ xs) :
    (xs.find? fun y => key y = key x) = some x := by
  induction xs with
  | nil => cases member
  | cons first others ih =>
    have parts := List.pairwise_cons.mp ordered
    rw [List.find?_cons]
    rcases List.mem_cons.mp member with rfl | later
    · rw [decide_eq_true rfl]
    · have different : key first ≠ key x := by
        intro same
        have below := parts.1 x later
        rw [same] at below
        exact Std.Irrefl.irrefl (key x) below
      rw [decide_eq_false different]
      exact ih parts.2 later

/-! ## Elements of an ascending list -/

theorem mem_insertBy {α κ : Type} [LT κ] [DecidableLT κ] (key : α → κ) (x z : α) :
    ∀ ys, z ∈ insertBy key x ys → z = x ∨ z ∈ ys
  | [], member => by simpa [insertBy] using member
  | y :: ys, member => by
    unfold insertBy at member
    split at member
    · simpa using member
    · split at member
      · rcases List.mem_cons.1 member with rfl | member
        · exact .inr List.mem_cons_self
        · exact (mem_insertBy key x z ys member).imp id (List.mem_cons_of_mem y)
      · exact .inr member

theorem mem_of_mem_ascendingBy {α κ : Type} [LT κ] [DecidableLT κ] (key : α → κ) (z : α) :
    ∀ xs, z ∈ ascendingBy key xs → z ∈ xs
  | [], member => by simp [ascendingBy] at member
  | x :: xs, member => by
    rcases mem_insertBy key x z _ member with rfl | member
    · exact List.mem_cons_self
    · exact List.mem_cons_of_mem x (mem_of_mem_ascendingBy key z xs member)

section

variable {α κ : Type} [LT κ] [DecidableLT κ] (key : α → κ)

theorem mem_insertBy_of_mem (x : α) {z : α} {ys : List α} (member : z ∈ ys) :
    z ∈ insertBy key x ys := by
  induction ys with
  | nil => cases member
  | cons y ys ih =>
    unfold insertBy
    split
    · exact List.mem_cons_of_mem x member
    · split
      · rcases List.mem_cons.mp member with rfl | later
        · exact List.mem_cons_self
        · exact List.mem_cons_of_mem y (ih later)
      · exact member

/-! ## Order -/

/-- An element below all others comes first. -/
theorem insertBy_of_below {x : α} {ys : List α} (below : ∀ y ∈ ys, key x < key y) :
    insertBy key x ys = x :: ys := by
  cases ys with
  | nil => rfl
  | cons y ys => rw [insertBy, if_pos (below y List.mem_cons_self)]

/-- An element above all others comes last. -/
theorem insertBy_of_above [Std.Asymm (α := κ) (· < ·)] {x : α} {ys : List α}
    (above : ∀ y ∈ ys, key y < key x) : insertBy key x ys = ys ++ [x] := by
  induction ys with
  | nil => rfl
  | cons y ys ih =>
    have lower := above y List.mem_cons_self
    rw [insertBy, if_neg (Std.Asymm.asymm _ _ lower), if_pos lower,
      ih fun z member => above z (List.mem_cons_of_mem y member), List.cons_append]

/-- An element with a new key is put among the others. -/
theorem insertBy_perm [Std.Trichotomous (α := κ) (· < ·)] {x : α} {ys : List α}
    (fresh : ∀ y ∈ ys, key y ≠ key x) : (insertBy key x ys).Perm (x :: ys) := by
  induction ys with
  | nil => exact .refl _
  | cons y ys ih =>
    unfold insertBy
    split
    · exact .refl _
    · split
      · have rest := ih fun z member => fresh z (List.mem_cons_of_mem y member)
        exact (rest.cons y).trans (.swap x y ys)
      · next notBelow notAbove =>
        have same := Std.Trichotomous.trichotomous (key x) (key y) notBelow notAbove
        exact absurd same.symm (fresh y List.mem_cons_self)

/-- A search passes over an element that it does not look for. -/
theorem find?_insertBy {wanted : α → Bool} {x : α} (unwanted : wanted x = false) (ys : List α) :
    (insertBy key x ys).find? wanted = ys.find? wanted := by
  induction ys with
  | nil =>
    rw [insertBy, List.find?_cons, unwanted]
  | cons y ys ih =>
    unfold insertBy
    split
    · rw [List.find?_cons, unwanted]
    · split
      · rw [List.find?_cons, List.find?_cons, ih]
      · rfl

theorem insertBy_ascending [Trans (α := κ) (· < ·) (· < ·) (· < ·)] (x : α) {ys : List α}
    (ordered : Ascending key ys) : Ascending key (insertBy key x ys) := by
  induction ys with
  | nil => exact List.pairwise_singleton _ x
  | cons y ys ih =>
    have parts := List.pairwise_cons.mp ordered
    unfold insertBy
    split
    · next below =>
      refine List.pairwise_cons.mpr ⟨fun z member => ?_, ordered⟩
      rcases List.mem_cons.mp member with rfl | later
      · exact below
      · exact Trans.trans below (parts.1 z later)
    · split
      · next above =>
        refine List.pairwise_cons.mpr ⟨fun z member => ?_, ih parts.2⟩
        rcases mem_insertBy key x z ys member with rfl | later
        · exact above
        · exact parts.1 z later
      · exact ordered

theorem ascendingBy_ascending [Trans (α := κ) (· < ·) (· < ·) (· < ·)] (xs : List α) :
    Ascending key (ascendingBy key xs) := by
  induction xs with
  | nil => exact List.Pairwise.nil
  | cons x xs ih => exact insertBy_ascending key x ih

/-- A list that is in order stays as it is. -/
theorem ascendingBy_eq_self {xs : List α} (ordered : Ascending key xs) :
    ascendingBy key xs = xs := by
  induction xs with
  | nil => rfl
  | cons x xs ih =>
    have parts := List.pairwise_cons.mp ordered
    have rest := ih parts.2
    rw [ascendingBy] at rest ⊢
    rw [List.foldr_cons, rest, insertBy_of_below key parts.1]

end

/-- When no key stands twice, nothing is dropped. -/
theorem ascendingBy_perm {α κ : Type} [LT κ] [DecidableLT κ] [Std.Trichotomous (α := κ) (· < ·)]
    {key : α → κ} {xs : List α} (distinct : (xs.map key).Nodup) :
    (ascendingBy key xs).Perm xs := by
  induction xs with
  | nil => exact .refl _
  | cons x xs ih =>
    rcases List.nodup_cons.mp distinct with ⟨fresh, others⟩
    have apart : ∀ y ∈ ascendingBy key xs, key y ≠ key x := by
      intro y member same
      have listed := mem_of_mem_ascendingBy key y xs member
      exact fresh (same ▸ List.mem_map_of_mem listed)
    exact (insertBy_perm key apart).trans ((ih others).cons x)

/-- When no key stands twice, it does not matter in which order the elements come. -/
theorem ascendingBy_eq_of_perm {α κ : Type} [LT κ] [DecidableLT κ]
    [Std.Trichotomous (α := κ) (· < ·)] [Std.Asymm (α := κ) (· < ·)]
    [Trans (α := κ) (· < ·) (· < ·) (· < ·)] {key : α → κ} {xs ys : List α}
    (distinct : (xs.map key).Nodup) (same : xs.Perm ys) :
    ascendingBy key xs = ascendingBy key ys := by
  have distinct' : (ys.map key).Nodup := (same.map key).nodup_iff.mp distinct
  apply (ascendingBy_ascending key xs).eq_of_perm (ascendingBy_ascending key ys)
  exact (ascendingBy_perm distinct).trans (same.trans (ascendingBy_perm distinct').symm)

/-! ## Which of the elements with a key is kept -/

/-- Says that an element of a list is the last one with its key. -/
inductive IsLast {α κ : Type} (key : α → κ) (x : α) : List α → Prop
  | here {xs : List α} (apart : ∀ y ∈ xs, key y ≠ key x) : IsLast key x (x :: xs)
  | later {y : α} {xs : List α} (last : IsLast key x xs) : IsLast key x (y :: xs)

section

variable {α κ : Type} [LT κ] [DecidableLT κ] [Std.Trichotomous (α := κ) (· < ·)]
  [Std.Asymm (α := κ) (· < ·)] [Trans (α := κ) (· < ·) (· < ·) (· < ·)] {key : α → κ}

/-- An element is inserted only where its key is new. -/
theorem mem_insertBy_iff {x z : α} {ys : List α} (ordered : Ascending key ys) :
    z ∈ insertBy key x ys ↔ z ∈ ys ∨ z = x ∧ ∀ y ∈ ys, key y ≠ key x := by
  have irrefl (k : κ) : ¬ k < k := fun below => Std.Asymm.asymm _ _ below below
  induction ys with
  | nil => simp [insertBy]
  | cons y ys ih =>
    have parts := List.pairwise_cons.mp ordered
    unfold insertBy
    split
    · next below =>
      have apart : ∀ other ∈ y :: ys, key other ≠ key x := by
        intro other member same
        rcases List.mem_cons.mp member with rfl | later
        · exact irrefl _ (same ▸ below)
        · exact irrefl _ (same ▸ Trans.trans below (parts.1 other later))
      rw [List.mem_cons, or_comm, and_iff_left apart]
    · split
      · next above =>
        have different : key y ≠ key x := fun same => irrefl _ (same ▸ above)
        have rest : z ∈ insertBy key x ys ↔ _ := ih parts.2
        rw [List.mem_cons, rest, List.mem_cons, or_assoc, List.forall_mem_cons,
          and_iff_right different]
      · next notBelow notAbove =>
        have same := Std.Trichotomous.trichotomous (key x) (key y) notBelow notAbove
        refine (or_iff_left ?_).symm
        rintro ⟨-, apart⟩
        exact apart y List.mem_cons_self same.symm

/-- No key is lost. -/
theorem exists_mem_ascendingBy {x : α} {xs : List α} (member : x ∈ xs) :
    ∃ y ∈ ascendingBy key xs, key y = key x := by
  induction xs with
  | nil => cases member
  | cons first xs ih =>
    have inserted {z : α} := mem_insertBy_iff (x := first) (z := z) (ascendingBy_ascending key xs)
    rcases List.mem_cons.mp member with rfl | later
    · by_cases known : ∃ y ∈ ascendingBy key xs, key y = key x
      · rcases known with ⟨y, kept, same⟩
        exact ⟨y, inserted.mpr (.inl kept), same⟩
      · exact ⟨x, inserted.mpr (.inr ⟨rfl, fun y kept same => known ⟨y, kept, same⟩⟩), rfl⟩
    · rcases ih later with ⟨y, kept, same⟩
      exact ⟨y, inserted.mpr (.inl kept), same⟩

/-- Of the elements with a key, the last one is kept. -/
theorem mem_ascendingBy_iff {x : α} {xs : List α} : x ∈ ascendingBy key xs ↔ IsLast key x xs := by
  induction xs with
  | nil => exact iff_of_false List.not_mem_nil nofun
  | cons first xs ih =>
    rw [ascendingBy, List.foldr_cons]
    refine (mem_insertBy_iff (ascendingBy_ascending key xs)).trans ⟨?_, fun last => ?_⟩
    · rintro (kept | ⟨rfl, apart⟩)
      · exact .later (ih.mp kept)
      · refine .here fun y member same => ?_
        have found : ∃ z ∈ ascendingBy key xs, key z = key y := exists_mem_ascendingBy member
        rcases found with ⟨z, kept, sameKey⟩
        exact apart z kept (sameKey.trans same)
    · cases last with
      | here apart => exact .inr ⟨rfl, fun y kept => apart y (mem_of_mem_ascendingBy key y xs kept)⟩
      | later last => exact .inl (ih.mpr last)

end

/-! ## Sets of values -/

section

variable {κ : Type} [LT κ] [DecidableLT κ] [Std.Trichotomous (α := κ) (· < ·)]

theorem mem_insertBy_self (x : κ) (ys : List κ) : x ∈ insertBy id x ys := by
  induction ys with
  | nil => exact List.mem_singleton.mpr rfl
  | cons y ys ih =>
    unfold insertBy
    split
    · exact List.mem_cons_self
    · split
      · exact List.mem_cons_of_mem y ih
      · next notBelow notAbove =>
        exact Std.Trichotomous.trichotomous x y notBelow notAbove ▸ List.mem_cons_self

/-- Values are neither lost nor made up when they are put in order. -/
theorem mem_ascending {z : κ} {xs : List κ} : z ∈ ascending xs ↔ z ∈ xs := by
  refine ⟨mem_of_mem_ascendingBy id z xs, fun member => ?_⟩
  induction xs with
  | nil => exact member
  | cons x xs ih =>
    rcases List.mem_cons.mp member with rfl | later
    · exact mem_insertBy_self z (ascendingBy id xs)
    · exact mem_insertBy_of_mem id x (ih later)

end

end Gamebook
