import Gamebook.Proofs.Files.Directory

namespace Gamebook
namespace Files
namespace Tree

/-!
# Trees in which a file is rewritten

To write a file anew changes one node of the tree, which was a file before and is one
afterwards.  A path is followed by what is a directory and what is a file, and never by
what a file holds, so every path leads where it did.  A directory has the same names in
it, and the same nodes but for the one file.
-/

/-- Says that a tree comes of another by writing the file at a place anew, with any
content and at any time. -/
structure Rewritten (tree after : Tree) (spot : Place) : Prop where
  was : ∃ content changed, tree.node? spot = some (.file content changed)
  is : ∃ content changed, after.entries = (tree.put spot (.file content changed)).entries

variable {tree after : Tree} {spot place : Place}

/-! ## Nodes -/

theorem mem_entries_put_iff {node : Node} {entry : Place × Node} :
    entry ∈ (tree.put spot node).entries ↔
      entry = (spot, node) ∨ entry ∈ tree.entries ∧ entry.1 ≠ spot := by
  rw [(entries_put tree spot node).mem_iff, List.mem_cons, List.mem_filter, decide_eq_true_eq]

theorem node?_congr (same : after.entries = tree.entries) (place : Place) :
    after.node? place = tree.node? place := by
  rw [node?, node?, same]

/-- A file is not at a place that is fixed, so it has an entry. -/
theorem mem_entries_of_node? {content : Content} {changed : Time}
    (found : tree.node? place = some (.file content changed)) :
    isFixed place = false ∧ (place, .file content changed) ∈ tree.entries := by
  rw [node?] at found
  split at found
  · cases found
  · next notFixed =>
    rcases Option.map_eq_some_iff.mp found with ⟨⟨other, node⟩, isFound, same⟩
    rcases mem_of_found isFound with ⟨listed, there⟩
    cases same
    cases there
    exact ⟨Bool.eq_false_iff.mpr notFixed, listed⟩

theorem Rewritten.node?_of_ne (rewritten : tree.Rewritten after spot) (different : place ≠ spot) :
    after.node? place = tree.node? place := by
  rcases rewritten.is with ⟨content, changed, same⟩
  rw [node?_congr same, node?_put_of_ne different]

/-- What is written is a file again. -/
theorem Rewritten.exists_file (rewritten : tree.Rewritten after spot) :
    ∃ content changed, after.node? spot = some (.file content changed) := by
  rcases rewritten.was with ⟨old, before, found⟩
  rcases rewritten.is with ⟨content, changed, same⟩
  refine ⟨content, changed, ?_⟩
  have listed : (spot, .file content changed) ∈ (tree.put spot (.file content changed)).entries :=
    mem_entries_put_iff.mpr (.inl rfl)
  have isSome : ((tree.put spot (.file content changed)).entries.find? fun entry =>
      entry.1 = spot).isSome = true := by
    rw [List.find?_isSome]
    exact ⟨_, listed, decide_eq_true rfl⟩
  rcases Option.isSome_iff_exists.mp isSome with ⟨entry, isFound⟩
  rcases mem_of_found isFound with ⟨isListed, there⟩
  rw [node?_congr same, node?, (mem_entries_of_node? found).1, if_neg Bool.false_ne_true, isFound,
    Option.map_some]
  rcases mem_entries_put_iff.mp isListed with isNew | ⟨-, elsewhere⟩
  · rw [isNew]
  · exact absurd there elsewhere

/-! ## Paths -/

/-- A path is walked in the same way. -/
theorem Rewritten.walk (rewritten : tree.Rewritten after spot) (place : Place)
    (names : List String) : after.walk place names = tree.walk place names := by
  induction names generalizing place with
  | nil => rw [Tree.walk, Tree.walk]
  | cons name names ih =>
    by_cases here : place = spot
    · rcases rewritten.was with ⟨old, before, found⟩
      rcases rewritten.exists_file with ⟨content, changed, found'⟩
      rw [here, Tree.walk, Tree.walk, found, found']
    · rw [Tree.walk, Tree.walk, rewritten.node?_of_ne here]
      simp only [ih]

theorem Rewritten.locate (rewritten : tree.Rewritten after spot) (path : String) :
    after.locate path = tree.locate path := by
  rw [Tree.locate, Tree.locate]
  simp only [rewritten.walk]

/-- A path leads to a directory just when it did before. -/
theorem Rewritten.leadsTo (rewritten : tree.Rewritten after spot) {path : String}
    (leads : tree.LeadsTo path place) : after.LeadsTo path place := by
  have different : place ≠ spot := by
    rintro rfl
    rcases rewritten.was with ⟨old, before, found⟩
    rw [leads.isDirectory] at found
    cases found
  refine ⟨(rewritten.locate path).trans leads.located, ?_⟩
  rw [rewritten.node?_of_ne different]
  exact leads.isDirectory

theorem Rewritten.hasPath (rewritten : tree.Rewritten after spot) (path : String) :
    after.hasPath path = tree.hasPath path := by
  rw [Tree.hasPath, Tree.hasPath, find, find, rewritten.locate]
  cases located : tree.locate path with
  | error error => rfl
  | ok target =>
    rw [ok_bind, ok_bind]
    by_cases here : target.place = spot
    · rcases rewritten.was with ⟨old, before, found⟩
      rcases rewritten.exists_file with ⟨content, changed, found'⟩
      rw [here, found, found']
    · rw [rewritten.node?_of_ne here]

/-- Elsewhere a path is read as before. -/
theorem Rewritten.read (rewritten : tree.Rewritten after spot) {path : String} {target : Target}
    (located : tree.locate path = .ok target) (elsewhere : target.place ≠ spot) :
    after.read path = tree.read path := by
  rw [Tree.read, Tree.read, find, find, rewritten.locate, located, ok_bind, ok_bind,
    rewritten.node?_of_ne elsewhere]

/-! ## Names in a directory -/

/-- A directory has the same nodes but for the file that was written. -/
theorem Rewritten.mem_children_iff (rewritten : tree.Rewritten after spot)
    {child : Name × Node} (elsewhere : place ++ [child.1] ≠ spot) :
    child ∈ after.children place ↔ child ∈ tree.children place := by
  rcases rewritten.is with ⟨content, changed, same⟩
  rw [Tree.mem_children_iff, Tree.mem_children_iff, same, mem_entries_put_iff,
    and_iff_left elsewhere]
  apply or_iff_right
  intro isNew
  exact elsewhere (Prod.mk.inj isNew).1

/-- The names in a directory are the same. -/
theorem Rewritten.exists_child (rewritten : tree.Rewritten after spot) {child : Name × Node}
    (member : child ∈ after.children place) : ∃ node, (child.1, node) ∈ tree.children place := by
  by_cases here : place ++ [child.1] = spot
  · rcases rewritten.was with ⟨old, before, found⟩
    refine ⟨.file old before, Tree.mem_children_iff.mpr ?_⟩
    rw [here]
    exact (mem_entries_of_node? found).2
  · exact ⟨child.2, (rewritten.mem_children_iff here).mp member⟩

/-- No name stands for two children where none did before. -/
theorem Rewritten.distinct (rewritten : tree.Rewritten after spot)
    (distinct : tree.Distinct place) : after.Distinct place := by
  rcases rewritten.is with ⟨content, changed, same⟩
  have children : after.children place =
      (tree.put spot (.file content changed)).children place := by
    rw [Tree.children, Tree.children, same]
  by_cases inside : ∃ name, spot = place ++ [name]
  · rcases inside with ⟨name, rfl⟩
    apply distinct.of_put
    rw [children]
    exact children_put tree place name _
  · have noChild : childOf place (spot, .file content changed) = none := by
      apply Option.eq_none_iff_forall_ne_some.mpr
      intro child isChild
      exact inside ⟨child.1, (Prod.mk.inj (childOf_eq_some_iff.mp isChild)).1⟩
    have others := (entries_put tree spot (.file content changed)).filterMap (childOf place)
    rw [List.filterMap_cons_none noChild] at others
    rw [Distinct, children]
    apply (others.map Prod.fst).nodup_iff.mpr
    exact distinct.sublist ((List.filter_sublist.filterMap _).map _)

end Tree
end Files
end Gamebook
