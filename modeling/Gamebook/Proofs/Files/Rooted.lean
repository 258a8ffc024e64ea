import Mathlib.Data.List.Induction
import Gamebook.Proofs.Files.Directory

namespace Gamebook
namespace Files

/-!
# Writing where nothing is yet

Before a file is written, the directories on its path are made.  So a path may lead
to a directory afterwards that it did not lead to before, and a directory may be
there that was not there.  What stays the same is told here by places: only one of
them gets a file, and the others keep what they had, or get a directory where there
was nothing.

A path that does not go up passes one place after the other, each below the one
before.  If whatever is in the tree is in a directory, such a path leads to every
directory that it can lead to at all.  A path that goes up may need a directory that
is not there, although it leads out of it again.
-/

namespace Tree

/-! ## The directory of a file's path -/

/-- What is in the directory of the path is at this place.  The empty path leads
nowhere, but a name behind it is a name in the working directory. -/
def Holds (tree : Tree) (path : String) (place : Place) : Prop :=
  path = "" ∧ place = [] ∨ tree.LeadsTo path place

theorem Holds.isDirectory {tree : Tree} {path : String} {place : Place}
    (holds : tree.Holds path place) : tree.node? place = some .directory := by
  rcases holds with ⟨-, rfl⟩ | leads
  · rfl
  · exact leads.isDirectory

theorem Holds.of_directories {tree after : Tree} {path : String} {place : Place}
    (holds : tree.Holds path place)
    (kept : ∀ place, tree.node? place = some .directory → after.node? place = some .directory) :
    after.Holds path place :=
  holds.imp id fun leads => leads.of_directories kept

/-- A path leads to one place. -/
theorem Holds.unique {tree : Tree} {path : String} {place other : Place}
    (holds : tree.Holds path place) (again : tree.Holds path other) : place = other := by
  have nowhere {place : Place} (leads : tree.LeadsTo "" place) : False := by
    cases leads.located
  rcases holds with ⟨rfl, rfl⟩ | leads
  · rcases again with ⟨-, rfl⟩ | leads
    · rfl
    · exact (nowhere leads).elim
  · rcases again with ⟨rfl, -⟩ | leads'
    · exact (nowhere leads).elim
    · exact congrArg Target.place (Except.ok.inj (leads.located.symm.trans leads'.located))

theorem Holds.locate_join {tree : Tree} {path : String} {place : Place}
    (holds : tree.Holds path place) {name : String} (isName : IsName name) :
    tree.locate (join path name) =
      if longestName < Text.byteLength name.toList then .error .nameTooLong
      else .ok ⟨place ++ [.text name], false⟩ := by
  rcases holds with ⟨rfl, rfl⟩ | leads
  · have nonempty : name ≠ "" := by
      rintro rfl
      exact absurd isName.solid (by decide)
    have single : segments name = [name] := by
      rw [segments, Text.pieces_of_not_mem isName.noSlash, List.map_singleton, String.ofList_toList]
    have joined : join "" name = name := by
      rw [join, isName.not_isAbsolute, if_neg Bool.false_ne_true, if_pos (by decide),
        String.empty_append]
    rw [joined, locate_of_text nonempty isName.noNul, single, start, isName.not_isAbsolute,
      if_neg Bool.false_ne_true, walk_cons rfl, enter_of_isName isName]
    split <;> rfl
  · exact leads.locate_join isName

/-! ## Walking back -/

/-- Only from a directory does a name lead on. -/
theorem directory_of_walk_name {tree : Tree} {place : Place} {names : List String} {name : String}
    (named : name.isEmpty = false) (member : name ∈ names) {target : Target}
    (walked : tree.walk place names = .ok target) : tree.node? place = some .directory := by
  by_contra noDirectory
  have empty := (walk_stops walked noDirectory).2 name member
  rw [named] at empty
  cases empty

/-- A walk to a name passes the directory in which the name is. -/
theorem exists_of_walk_concat {tree : Tree} {place : Place} {names : List String} {name : String}
    (named : name.isEmpty = false) {target : Target}
    (walked : tree.walk place (names ++ [name]) = .ok target) :
    ∃ between, tree.node? between = some .directory ∧
      tree.walk place names = .ok ⟨between, false⟩ ∧ enter between name = .ok target.place := by
  induction names generalizing place with
  | nil =>
    have here := directory_of_walk_name named List.mem_cons_self walked
    rw [List.nil_append, walk_cons here] at walked
    rcases bind_eq_ok_iff.mp walked with ⟨next, step, same⟩
    cases same
    exact ⟨place, here, rfl, step⟩
  | cons first names ih =>
    have member : name ∈ first :: names ++ [name] := List.mem_append_right _ List.mem_cons_self
    have here := directory_of_walk_name named member walked
    rw [List.cons_append, walk_cons here] at walked
    rcases bind_eq_ok_iff.mp walked with ⟨next, step, rest⟩
    rcases ih rest with ⟨between, isDirectory, walkedNames, last⟩
    refine ⟨between, isDirectory, ?_, last⟩
    rw [walk_cons here, step, ok_bind]
    exact walkedNames

/-- A name is found only in a directory to which the path before it leads. -/
theorem exists_holds_of_locate_join {tree : Tree} {path name : String} (isName : IsName name)
    {target : Target} (located : tree.locate (join path name) = .ok target) :
    ∃ place, tree.Holds path place := by
  rcases locate_eq_ok_iff.mp located with ⟨-, noNul, walked⟩
  rcases exists_segments_join isName path with ⟨names, split, ofPath⟩
  rcases exists_toList_join isName path with ⟨between, text, -⟩
  have named : name.isEmpty = false := (Bool.or_eq_false_iff.mp isName.solid).1
  have sameStart : start (join path name) = start path := by
    rw [start, start, isAbsolute_join isName]
  rw [split, sameStart] at walked
  rcases exists_of_walk_concat named walked with ⟨place, isDirectory, walkedNames, -⟩
  have walkedPath : tree.walk (start path) (segments path) = .ok ⟨place, false⟩ := by
    rcases ofPath with same | same
    · rw [same]
      exact walkedNames
    · rw [same, walk_append walkedNames isDirectory, walk_cons isDirectory,
        enter_of_idle (by decide), ok_bind, walk]
  by_cases empty : path = ""
  · exact ⟨[], .inl ⟨empty, rfl⟩⟩
  · refine ⟨place, .inr ⟨locate_eq_ok_iff.mpr ⟨empty, fun nul => noNul ?_, walkedPath⟩,
      isDirectory⟩⟩
    rw [text]
    exact List.mem_append_left _ (List.mem_append_left _ nul)

/-! ## What there is to find -/

/-- A file is found by its name in the directory that holds it. -/
theorem Holds.find_join {tree : Tree} {path : String} {place : Place}
    (holds : tree.Holds path place) {name : String} (isName : IsName name) {node : Node} :
    tree.find (join path name) = .ok node ↔
      Text.byteLength name.toList ≤ longestName ∧
        tree.node? (place ++ [.text name]) = some node := by
  rw [find, holds.locate_join isName]
  by_cases long : longestName < Text.byteLength name.toList
  · rw [if_pos long]
    exact iff_of_false error_ne_ok fun found => Nat.not_le.mpr long found.1
  · rw [if_neg long, ok_bind, and_iff_right (Nat.not_lt.mp long)]
    cases tree.node? (place ++ [.text name]) with
    | none => exact iff_of_false error_ne_ok (Option.some_ne_none _).symm
    | some found => rw [Except.ok.injEq, Option.some.injEq]

/-- Where a path leads nowhere, there is nothing behind it. -/
theorem find_join_of_not_holds {tree : Tree} {path : String}
    (nowhere : ∀ place, ¬ tree.Holds path place) {name : String} (isName : IsName name)
    {node : Node} : tree.find (join path name) ≠ .ok node := by
  intro found
  rcases bind_eq_ok_iff.mp found with ⟨target, located, -⟩
  rcases exists_holds_of_locate_join isName located with ⟨place, holds⟩
  exact nowhere place holds

/-! ## What changes -/

theorem not_isFixed_of_node? {tree : Tree} {place : Place}
    (noDirectory : tree.node? place ≠ some .directory) : isFixed place = false := by
  refine Bool.eq_false_iff.mpr fun fixed => noDirectory ?_
  rw [node?, if_pos fixed]

theorem node?_put_self {tree : Tree} {place : Place} (notFixed : isFixed place = false)
    (node : Node) : (tree.put place node).node? place = some node := by
  have fresh : ∀ entry ∈ tree.entries.filter fun entry => entry.1 ≠ place, entry.1 ≠ place :=
    fun entry member => of_decide_eq_true (List.mem_filter.mp member).2
  have inserted := insertBy_perm (·.1) (x := (place, node)) fresh
  have isSome : ((tree.put place node).entries.find? fun entry => entry.1 = place).isSome := by
    rw [List.find?_isSome]
    exact ⟨(place, node), inserted.mem_iff.mpr List.mem_cons_self, decide_eq_true rfl⟩
  rcases Option.isSome_iff_exists.mp isSome with ⟨entry, found⟩
  rcases mem_of_found found with ⟨member, there⟩
  have same : entry = (place, node) := by
    rcases List.mem_cons.mp (inserted.mem_iff.mp member) with same | other
    · exact same
    · exact absurd there (fresh entry other)
  rw [node?, notFixed, if_neg Bool.false_ne_true, found, same]
  rfl

/-- Directories were made where there was nothing, and nothing else has changed. -/
def Grown (tree after : Tree) : Prop :=
  ∀ place, after.node? place = tree.node? place ∨
    tree.node? place = none ∧ after.node? place = some .directory

theorem Grown.refl (tree : Tree) : tree.Grown tree := fun _ => .inl rfl

theorem Grown.trans {tree between after : Tree} (first : tree.Grown between)
    (second : between.Grown after) : tree.Grown after := by
  intro place
  rcases second place with same | ⟨nothing, made⟩
  · rw [same]
    exact first place
  · rcases first place with same | ⟨-, made'⟩
    · exact .inr ⟨same ▸ nothing, made⟩
    · rw [nothing] at made'
      cases made'

theorem Grown.directory {tree after : Tree} (grown : tree.Grown after) {place : Place}
    (isDirectory : tree.node? place = some .directory) : after.node? place = some .directory := by
  rcases grown place with same | ⟨-, made⟩
  · rw [same]
    exact isDirectory
  · exact made

/-- Files neither come nor go when directories are made. -/
theorem Grown.file_iff {tree after : Tree} (grown : tree.Grown after) (place : Place)
    (content : Content) (changed : Time) :
    after.node? place = some (.file content changed) ↔
      tree.node? place = some (.file content changed) := by
  rcases grown place with same | ⟨nothing, made⟩
  · rw [same]
  · rw [nothing, made]
    exact iff_of_false nofun nofun

theorem grown_of_makeDirectory {tree after : Tree} {path : String}
    (made : tree.makeDirectory path = .ok after) : tree.Grown after := by
  rcases bind_eq_ok_iff.mp made with ⟨target, -, rest⟩
  split at rest
  · cases rest
  · next nothing =>
    cases rest
    intro place
    by_cases there : place = target.place
    · rw [there]
      have noDirectory : tree.node? target.place ≠ some .directory := by
        rw [nothing]
        exact (Option.some_ne_none _).symm
      exact .inr ⟨nothing, node?_put_self (not_isFixed_of_node? noDirectory) _⟩
    · exact .inl (node?_put_of_ne there _)

/-- What each directory that is made keeps, all of them together keep, even if some
cannot be made. -/
theorem invariant_of_makingDirectories {holds : Tree → Prop}
    (step : ∀ tree path after, holds tree → makeDirectory tree path = .ok after → holds after)
    {tree : Tree} (start : holds tree) (paths : List String) :
    holds (tree.makingDirectories paths).2 := by
  induction paths with
  | nil => exact start
  | cons path above ih =>
    rw [makingDirectories]
    split
    · exact start
    · split
      · next single => exact step _ _ _ start single
      · generalize tree.makingDirectories above = madeAbove at ih
        rcases madeAbove with ⟨error | made, between⟩
        · exact ih
        · rw [andThen]
          split
          · next last => exact step _ _ _ ih last
          · exact ih
      · exact start

theorem grown_of_makingDirectories (tree : Tree) (paths : List String) :
    tree.Grown (tree.makingDirectories paths).2 :=
  invariant_of_makingDirectories (fun _ _ _ grown made => grown.trans (grown_of_makeDirectory made))
    (.refl tree) paths

theorem left_of_makeDirectories {tree after : Tree} {paths : List String}
    (made : tree.makeDirectories paths = .ok after) : (tree.makingDirectories paths).2 = after :=
  congrArg Prod.snd (leftBy_eq_ok_iff.mp made)

theorem grown_of_makeDirectories {tree after : Tree} {paths : List String}
    (made : tree.makeDirectories paths = .ok after) : tree.Grown after :=
  left_of_makeDirectories made ▸ grown_of_makingDirectories tree paths

/-- What a write does: the place gets the file, and no other place changes. -/
structure Written (tree after : Tree) (place : Place) (content : Content) : Prop where
  noDirectory : tree.node? place ≠ some .directory
  here : ∃ changed, after.node? place = some (.file content changed)
  elsewhere : ∀ other, other ≠ place → after.node? other = tree.node? other

theorem Written.directory {tree after : Tree} {place : Place} {content : Content}
    (written : tree.Written after place content) {other : Place}
    (isDirectory : tree.node? other = some .directory) : after.node? other = some .directory := by
  rw [written.elsewhere]
  · exact isDirectory
  · rintro rfl
    exact written.noDirectory isDirectory

/-- A file that could be written is in the directory that holds it. -/
theorem exists_written_join {tree after : Tree} {path name : String} (isName : IsName name)
    {content : Content} (write : tree.write (join path name) content = .ok after) :
    ∃ place, tree.Holds path place ∧ Text.byteLength name.toList ≤ longestName ∧
      tree.Written after (place ++ [.text name]) content := by
  rcases bind_eq_ok_iff.mp write with ⟨target, located, rest⟩
  rcases exists_holds_of_locate_join isName located with ⟨place, holds⟩
  rw [holds.locate_join isName] at located
  by_cases long : longestName < Text.byteLength name.toList
  · rw [if_pos long] at located
    cases located
  rw [if_neg long] at located
  cases located
  have noDirectory : tree.node? (place ++ [.text name]) ≠ some .directory := by
    intro isDirectory
    simp only [isDirectory] at rest
    cases rest
  have written : after =
      { tree with turn := tree.turn + 1 }.put (place ++ [Name.text name])
        (.file content ⟨0, tree.turn + 1⟩) := by
    split at rest
    · cases rest
    · cases rest
      rfl
    · cases rest
      rfl
  refine ⟨place, holds, Nat.not_lt.mp long, noDirectory, ⟨⟨0, tree.turn + 1⟩, ?_⟩, ?_⟩
  · rw [written]
    exact node?_put_self (isFixed_concat isName place) _
  · intro other different
    rw [written]
    exact node?_put_of_ne different _

/-! ## Trees in which everything is in a directory -/

/-- Whatever is in the tree is in a directory, and below the working directory and
the root no name is a step. -/
structure Rooted (tree : Tree) : Prop where
  inside : ∀ (place : Place) (name : Name), (tree.node? (place ++ [name])).isSome = true →
    tree.node? place = some .directory
  named : ∀ (place : Place) (name : Name), (tree.node? (place ++ [name])).isSome = true →
    isFixed (place ++ [name]) = true ∨ name ≠ ".." ∧ name ≠ "/"

theorem isFixed_append (place names : Place) :
    isFixed (place ++ names) = (isFixed place && isFixed names) :=
  List.all_append

/-- It is enough to look at what the tree lists. -/
theorem rooted_of_entries {tree : Tree}
    (each : ∀ entry ∈ tree.entries, ∃ (place : Place) (name : Name), entry.1 = place ++ [name] ∧
      tree.node? place = some .directory ∧ name ≠ ".." ∧ name ≠ "/") : tree.Rooted := by
  have listed : ∀ (place : Place) (name : Name), (tree.node? (place ++ [name])).isSome = true →
      isFixed (place ++ [name]) = true ∨
        tree.node? place = some .directory ∧ name ≠ ".." ∧ name ≠ "/" := by
    intro place name isSome
    rw [node?] at isSome
    split at isSome
    · next fixed => exact .inl fixed
    · rw [Option.isSome_map] at isSome
      rcases Option.isSome_iff_exists.mp isSome with ⟨entry, found⟩
      rcases mem_of_found found with ⟨member, there⟩
      rcases each entry member with ⟨above, last, same, proper⟩
      rcases List.append_inj' (same.symm.trans there) rfl with ⟨rfl, sameName⟩
      cases sameName
      exact .inr proper
  refine ⟨fun place name isSome => ?_, fun place name isSome => (listed place name isSome).imp id
    And.right⟩
  rcases listed place name isSome with fixed | ⟨isDirectory, -⟩
  · rw [isFixed_append, Bool.and_eq_true] at fixed
    rw [node?, if_pos fixed.1]
  · exact isDirectory

namespace Rooted

variable {tree after : Tree}

/-- A change of one name in a directory leaves everything in a directory, because
nothing was below what was changed. -/
theorem of_elsewhere (rooted : tree.Rooted) {place : Place} {name : Name}
    (isDirectory : tree.node? place = some .directory) (proper : name ≠ ".." ∧ name ≠ "/")
    (noDirectory : tree.node? (place ++ [name]) ≠ some .directory)
    (elsewhere : ∀ other, other ≠ place ++ [name] → after.node? other = tree.node? other) :
    after.Rooted := by
  have apart : place ≠ place ++ [name] := by
    intro same
    have longer := congrArg List.length same
    rw [List.length_append, List.length_singleton] at longer
    omega
  refine ⟨fun other child isSome => ?_, fun other child isSome => ?_⟩
  · by_cases same : other ++ [child] = place ++ [name]
    · rw [(List.append_inj' same rfl).1, elsewhere place apart]
      exact isDirectory
    · rw [elsewhere _ same] at isSome
      have above := rooted.inside other child isSome
      rw [elsewhere]
      · exact above
      · rintro rfl
        exact noDirectory above
  · by_cases same : other ++ [child] = place ++ [name]
    · have sameName := List.singleton_inj.mp (List.append_inj' same rfl).2
      exact .inr (sameName ▸ proper)
    · rw [elsewhere _ same] at isSome
      exact rooted.named other child isSome

/-- The way up from a directory leads to a directory. -/
theorem directory_above (rooted : tree.Rooted) {place : Place}
    (isDirectory : tree.node? place = some .directory) :
    tree.node? (above place) = some .directory := by
  rcases List.eq_nil_or_concat place with rfl | ⟨names, name, rfl⟩
  · rfl
  · rw [List.concat_eq_append] at isDirectory ⊢
    have isSome : (tree.node? (names ++ [name])).isSome = true := by
      rw [isDirectory]
      rfl
    rw [above, List.getLast?_concat]
    split
    · next none => cases none
    · next up =>
      cases up
      have fixed : isFixed (names ++ [.text ".."]) = true :=
        (rooted.named names ".." isSome).resolve_right fun proper => proper.1 rfl
      rw [node?, isFixed_append, fixed, if_pos (by decide)]
    · exact isDirectory
    · rw [List.dropLast_concat]
      exact rooted.inside names name isSome

/-- What a walk leads to is there, or it is missing from a directory. -/
theorem exists_of_missing (rooted : tree.Rooted) {place : Place} {names : List String}
    (isDirectory : tree.node? place = some .directory) (noSlash : ∀ name ∈ names, name ≠ "/")
    {target : Target} (walked : tree.walk place names = .ok target)
    (missing : tree.node? target.place = none) :
    ∃ (between : Place) (name : Name), target.place = between ++ [name] ∧
      tree.node? between = some .directory ∧ name ≠ ".." ∧ name ≠ "/" := by
  induction names generalizing place with
  | nil =>
    cases walked
    rw [isDirectory] at missing
    cases missing
  | cons first names ih =>
    rcases List.forall_mem_cons.mp noSlash with ⟨firstNoSlash, others⟩
    rw [walk_cons isDirectory] at walked
    rcases bind_eq_ok_iff.mp walked with ⟨next, step, rest⟩
    rcases enter_cases step with rfl | ⟨-, rfl⟩ | ⟨notUp, rfl⟩
    · exact ih isDirectory others rest
    · exact ih (rooted.directory_above isDirectory) others rest
    · by_cases below : tree.node? (place ++ [.text first]) = some .directory
      · exact ih below others rest
      · refine ⟨place, first, (walk_stops rest below).1, isDirectory, ?_, ?_⟩
        · exact fun same => notUp (Name.text.inj same)
        · exact fun same => firstNoSlash (Name.text.inj same)

theorem of_makeDirectory (rooted : tree.Rooted) {path : String}
    (made : tree.makeDirectory path = .ok after) : after.Rooted := by
  rcases bind_eq_ok_iff.mp made with ⟨target, located, rest⟩
  split at rest
  · cases rest
  · next missing =>
    cases rest
    rcases locate_eq_ok_iff.mp located with ⟨-, -, walked⟩
    have begun : tree.node? (start path) = some .directory := by
      rw [start]
      split <;> rfl
    have noSlash : ∀ name ∈ segments path, name ≠ "/" := by
      rintro name member rfl
      rcases List.mem_map.mp member with ⟨piece, isPiece, same⟩
      have isSlash : piece = ['/'] := by rw [← String.toList_ofList (l := piece), same]; rfl
      exact Text.not_mem_of_mem_pieces isPiece (isSlash ▸ List.mem_cons_self)
    rcases rooted.exists_of_missing begun noSlash walked missing with
      ⟨between, name, same, isDirectory, proper⟩
    rw [same] at missing ⊢
    have noDirectory : tree.node? (between ++ [name]) ≠ some .directory := by
      rw [missing]
      exact (Option.some_ne_none _).symm
    refine rooted.of_elsewhere isDirectory proper noDirectory ?_
    exact fun other different => node?_put_of_ne different _

theorem of_makeDirectories (rooted : tree.Rooted) {paths : List String}
    (made : tree.makeDirectories paths = .ok after) : after.Rooted :=
  left_of_makeDirectories made ▸
    invariant_of_makingDirectories (fun _ _ _ rooted => rooted.of_makeDirectory) rooted paths

/-- What is below a place is there only if the place is a directory. -/
theorem directory_of_isPrefix (rooted : tree.Rooted) {place below : Place}
    (isPrefix : place <+: below) (isDirectory : tree.node? below = some .directory) :
    tree.node? place = some .directory := by
  rcases isPrefix with ⟨names, rfl⟩
  induction names using List.reverseRecOn with
  | nil => rwa [List.append_nil] at isDirectory
  | append_singleton names name ih =>
    rw [← List.append_assoc] at isDirectory
    exact ih (rooted.inside _ name (by rw [isDirectory]; rfl))

end Rooted

/-! ## Paths that can be followed already -/

theorem walk_of_empty {tree : Tree} {place : Place} {names : List String}
    (empty : ∀ name ∈ names, name.isEmpty = true) {target : Target}
    (walked : tree.walk place names = .ok target) : target.place = place := by
  induction names with
  | nil =>
    cases walked
    rfl
  | cons name names ih =>
    rcases List.forall_mem_cons.mp empty with ⟨first, others⟩
    by_cases here : tree.node? place = some .directory
    · have idle : isIdle name = true := Bool.or_eq_true_iff.mpr (.inl first)
      rw [walk_cons here, enter_of_idle idle, ok_bind] at walked
      exact ih others walked
    · exact (walk_stops walked here).1

/-- Where a walk leads does not change when more directories are there. -/
theorem place_of_walk {tree after : Tree}
    (kept : ∀ place, tree.node? place = some .directory → after.node? place = some .directory)
    {place : Place} {names : List String} {target target' : Target}
    (walked : tree.walk place names = .ok target) (again : after.walk place names = .ok target') :
    target'.place = target.place := by
  induction names generalizing place with
  | nil =>
    cases walked
    cases again
    rfl
  | cons name names ih =>
    by_cases here : tree.node? place = some .directory
    · rw [walk_cons here] at walked
      rw [walk_cons (kept place here)] at again
      rcases bind_eq_ok_iff.mp walked with ⟨next, step, rest⟩
      rw [step, ok_bind] at again
      exact ih rest again
    · rcases walk_stops walked here with ⟨stopped, empty⟩
      rw [stopped]
      exact walk_of_empty empty again

/-- A path that can be followed leads to a directory before more directories are made,
if it leads there afterwards and the directory was there. -/
theorem Holds.of_locate {tree after : Tree}
    (kept : ∀ place, tree.node? place = some .directory → after.node? place = some .directory)
    {path : String} {target : Target} (located : tree.locate path = .ok target) {place : Place}
    (holds : after.Holds path place) (was : tree.node? place = some .directory) :
    tree.Holds path place := by
  rcases holds with nowhere | leads
  · exact .inl nowhere
  · rcases locate_eq_ok_iff.mp located with ⟨-, -, walked⟩
    rcases locate_eq_ok_iff.mp leads.located with ⟨-, -, again⟩
    have same : place = target.place := place_of_walk kept walked again
    rw [same] at was ⊢
    exact .inr (leadsTo_of_locate located was)

/-! ## Paths that do not go up -/

/-- Without steps upwards a walk goes down from where it starts. -/
theorem isPrefix_of_walk {tree : Tree} {place : Place} {names : List String}
    (noStep : ".." ∉ names) {target : Target} (walked : tree.walk place names = .ok target) :
    place <+: target.place := by
  induction names generalizing place with
  | nil =>
    cases walked
    exact List.prefix_refl _
  | cons name names ih =>
    by_cases here : tree.node? place = some .directory
    · rw [walk_cons here] at walked
      rcases bind_eq_ok_iff.mp walked with ⟨next, step, rest⟩
      have below := ih (fun later => noStep (List.mem_cons_of_mem _ later)) rest
      rcases enter_cases step with rfl | ⟨rfl, -⟩ | ⟨-, rfl⟩
      · exact below
      · exact absurd List.mem_cons_self noStep
      · exact (List.prefix_append place [name]).trans below
    · exact (walk_stops walked here).1 ▸ List.prefix_refl _

/-- Where everything is in a directory, a path that does not go up leads to a
directory as soon as it is there. -/
theorem Rooted.walk_of_walk {tree after : Tree} (rooted : tree.Rooted) {place : Place}
    {names : List String} (noStep : ".." ∉ names) {target : Target}
    (walked : after.walk place names = .ok target)
    (isDirectory : after.node? target.place = some .directory)
    (was : tree.node? target.place = some .directory) : tree.walk place names = .ok target := by
  induction names generalizing place with
  | nil => exact walked
  | cons name names ih =>
    have below := isPrefix_of_walk noStep walked
    have here := directory_of_walk walked isDirectory
    rw [walk_cons here] at walked
    rcases bind_eq_ok_iff.mp walked with ⟨next, step, rest⟩
    rw [walk_cons (rooted.directory_of_isPrefix below was), step, ok_bind]
    exact ih (fun later => noStep (List.mem_cons_of_mem _ later)) rest

theorem Rooted.holds_of_directory {tree after : Tree} (rooted : tree.Rooted) {path : String}
    (noStep : ".." ∉ segments path) {place : Place} (holds : after.Holds path place)
    (was : tree.node? place = some .directory) : tree.Holds path place := by
  rcases holds with nowhere | leads
  · exact .inl nowhere
  · rcases locate_eq_ok_iff.mp leads.located with ⟨nonempty, noNul, walked⟩
    have walkedBefore := rooted.walk_of_walk noStep walked leads.isDirectory was
    exact .inr ⟨locate_eq_ok_iff.mpr ⟨nonempty, noNul, walkedBefore⟩, was⟩

end Tree
end Files
end Gamebook
