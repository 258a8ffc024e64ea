import Mathlib.Data.List.Nodup
import Gamebook.Files.Tree
import Gamebook.Limits

namespace Gamebook
namespace Files

/-!
# The files in one directory

A tree is looked at here from one of its directories.  The path of the directory
may go through idle segments and upwards, and it may end in slashes, so the names
in the directory are found by walking and not by comparing texts.

Writing and removing files in the directory does not change where its path leads,
because the walk there passes through directories only.  So what the files do can
be told from the list of the directory's children alone.
-/

namespace Tree

/-! ## Walking -/

/-- The place to which a step leads. -/
def enter (place : Place) (name : String) : Except FileError Place :=
  if isIdle name then .ok place
  else if name = ".." then .ok (above place)
  else if longestName < Text.byteLength name.toList then .error .nameTooLong
  else .ok (place ++ [.text name])

theorem enter_of_isName {name : String} (isName : IsName name) (place : Place) :
    enter place name =
      if longestName < Text.byteLength name.toList then .error .nameTooLong
      else .ok (place ++ [.text name]) := by
  rw [enter, isName.solid, if_neg Bool.false_ne_true, if_neg isName.noStep]

theorem enter_of_idle {name : String} (idle : isIdle name = true) (place : Place) :
    enter place name = .ok place := by
  rw [enter, if_pos idle]

/-- A segment that is idle stays, one step goes up, and a name goes down. -/
theorem enter_cases {place next : Place} {name : String} (step : enter place name = .ok next) :
    next = place ∨ name = ".." ∧ next = above place ∨
      name ≠ ".." ∧ next = place ++ [.text name] := by
  rw [enter] at step
  split at step
  · cases step
    exact .inl rfl
  · split at step
    · next up =>
      cases step
      exact .inr (.inl ⟨up, rfl⟩)
    · next notUp =>
      split at step
      · cases step
      · cases step
        exact .inr (.inr ⟨notUp, rfl⟩)

/-- In a directory a walk takes one step after the other. -/
theorem walk_cons {tree : Tree} {place : Place} (isDirectory : tree.node? place = some .directory)
    (name : String) (names : List String) :
    tree.walk place (name :: names) = (do tree.walk (← enter place name) names) := by
  rw [walk, isDirectory, enter]
  dsimp only
  repeat' split
  all_goals rfl

/-- Where there is no directory a walk ends.  Only empty segments may follow, when
nothing is there. -/
theorem walk_stops {tree : Tree} {place : Place} {names : List String} {target : Target}
    (walked : tree.walk place names = .ok target)
    (noDirectory : tree.node? place ≠ some .directory) :
    target.place = place ∧ ∀ name ∈ names, name.isEmpty = true := by
  cases names with
  | nil =>
    cases walked
    exact ⟨rfl, List.forall_mem_nil _⟩
  | cons first names =>
    rw [walk] at walked
    split at walked
    · split at walked
      · next allEmpty =>
        cases walked
        exact ⟨rfl, List.all_eq_true.mp allEmpty⟩
      · cases walked
    · cases walked
    · next found => exact absurd found noDirectory

/-- A walk that ends in a directory passes through directories only. -/
theorem directory_of_walk {tree : Tree} {place : Place} {names : List String} {target : Target}
    (walked : tree.walk place names = .ok target)
    (isDirectory : tree.node? target.place = some .directory) :
    tree.node? place = some .directory := by
  by_contra noDirectory
  rw [(walk_stops walked noDirectory).1] at isDirectory
  exact noDirectory isDirectory

/-- What the segments behind a directory lead to. -/
theorem walk_append {tree : Tree} {place : Place} {names : List String} {target : Target}
    (walked : tree.walk place names = .ok target)
    (isDirectory : tree.node? target.place = some .directory) (more : List String) :
    tree.walk place (names ++ more) = tree.walk target.place more := by
  induction names generalizing place with
  | nil =>
    cases walked
    rfl
  | cons name names ih =>
    have here := directory_of_walk walked isDirectory
    rw [walk_cons here] at walked
    rcases bind_eq_ok_iff.mp walked with ⟨next, step, rest⟩
    rw [List.cons_append, walk_cons here, step, ok_bind]
    exact ih rest

/-- Idle segments at the end may be left out. -/
theorem walk_of_walk_idle {tree : Tree} {place : Place} {names idle : List String} {target : Target}
    (areIdle : ∀ name ∈ idle, isIdle name = true)
    (walked : tree.walk place (names ++ idle) = .ok target)
    (isDirectory : tree.node? target.place = some .directory) :
    tree.walk place names = .ok ⟨target.place, false⟩ := by
  induction names generalizing place with
  | nil =>
    induction idle with
    | nil =>
      cases walked
      rfl
    | cons name idle ih =>
      rcases List.forall_mem_cons.mp areIdle with ⟨isIdle, others⟩
      have here := directory_of_walk walked isDirectory
      rw [List.nil_append, walk_cons here, enter_of_idle isIdle, ok_bind] at walked
      exact ih others walked
  | cons name names ih =>
    have here := directory_of_walk walked isDirectory
    rw [List.cons_append, walk_cons here] at walked
    rcases bind_eq_ok_iff.mp walked with ⟨next, step, rest⟩
    rw [walk_cons here, step, ok_bind]
    exact ih rest

/-- A tree in which the same places are directories is walked in the same way. -/
theorem walk_of_directories {tree after : Tree}
    (kept : ∀ place, tree.node? place = some .directory → after.node? place = some .directory)
    {place : Place} {names : List String} {target : Target}
    (walked : tree.walk place names = .ok target)
    (isDirectory : tree.node? target.place = some .directory) :
    after.walk place names = .ok target := by
  induction names generalizing place with
  | nil => exact walked
  | cons name names ih =>
    have here := directory_of_walk walked isDirectory
    rw [walk_cons here] at walked
    rcases bind_eq_ok_iff.mp walked with ⟨next, step, rest⟩
    rw [walk_cons (kept place here), step, ok_bind]
    exact ih rest

/-! ## Directories -/

/-- The place from which a path is walked. -/
def start (path : String) : Place := if isAbsolute path then ["/"] else []

theorem locate_of_text {tree : Tree} {path : String} (nonempty : path ≠ "")
    (noNul : '\x00' ∉ path.toList) : tree.locate path = tree.walk (start path) (segments path) := by
  rw [locate, if_neg (by rwa [String.isEmpty_iff]), if_neg (by rwa [List.contains_iff_mem]), start]
  split <;> rfl

theorem locate_eq_ok_iff {tree : Tree} {path : String} {target : Target} :
    tree.locate path = .ok target ↔
      path ≠ "" ∧ '\x00' ∉ path.toList ∧ tree.walk (start path) (segments path) = .ok target := by
  by_cases empty : path = ""
  · rw [locate, if_pos (String.isEmpty_iff.mpr empty)]
    exact iff_of_false nofun fun located => located.1 empty
  · by_cases nul : '\x00' ∈ path.toList
    · rw [locate, if_neg (by rwa [String.isEmpty_iff]), if_pos (List.contains_iff_mem.mpr nul)]
      exact iff_of_false nofun fun located => located.2.1 nul
    · rw [locate_of_text empty nul]
      exact ⟨fun walked => ⟨empty, nul, walked⟩, fun located => located.2.2⟩

/-- The path leads to a directory at the place. -/
structure LeadsTo (tree : Tree) (path : String) (place : Place) : Prop where
  located : tree.locate path = .ok ⟨place, false⟩
  isDirectory : tree.node? place = some .directory

/-- A path that leads to a directory still does so when the directories stay. -/
theorem LeadsTo.of_directories {tree after : Tree} {path : String} {place : Place}
    (leads : tree.LeadsTo path place)
    (kept : ∀ place, tree.node? place = some .directory → after.node? place = some .directory) :
    after.LeadsTo path place := by
  rcases locate_eq_ok_iff.mp leads.located with ⟨nonempty, noNul, walked⟩
  refine ⟨locate_eq_ok_iff.mpr ⟨nonempty, noNul, ?_⟩, kept place leads.isDirectory⟩
  exact walk_of_directories kept walked leads.isDirectory

/-- A path leads to the directory at which it is located. -/
theorem leadsTo_of_locate {tree : Tree} {path : String} {target : Target}
    (located : tree.locate path = .ok target)
    (isDirectory : tree.node? target.place = some .directory) :
    tree.LeadsTo path target.place := by
  rcases locate_eq_ok_iff.mp located with ⟨nonempty, noNul, walked⟩
  rw [← List.append_nil (segments path)] at walked
  have again := walk_of_walk_idle (List.forall_mem_nil _) walked isDirectory
  exact ⟨locate_eq_ok_iff.mpr ⟨nonempty, noNul, again⟩, isDirectory⟩

/-- A name in a directory is found in the directory, unless it is too long. -/
theorem LeadsTo.locate_join {tree : Tree} {path : String} {place : Place}
    (leads : tree.LeadsTo path place) {name : String} (isName : IsName name) :
    tree.locate (join path name) =
      if longestName < Text.byteLength name.toList then .error .nameTooLong
      else .ok ⟨place ++ [.text name], false⟩ := by
  rcases locate_eq_ok_iff.mp leads.located with ⟨nonempty, noNul, walked⟩
  rcases exists_segments_join isName path with ⟨names, split, ofPath⟩
  rcases exists_toList_join isName path with ⟨between, text, isBetween⟩
  have walkedNames : tree.walk (start path) names = .ok ⟨place, false⟩ := by
    rcases ofPath with same | same
    · rw [← same, walked]
    · rw [same] at walked
      exact walk_of_walk_idle (List.forall_mem_singleton.mpr rfl) walked leads.isDirectory
  have joined : tree.locate (join path name) = tree.walk (start path) (names ++ [name]) := by
    rw [locate_of_text, split, start, start, isAbsolute_join isName]
    · intro empty
      rw [empty] at text
      have noText := (List.append_eq_nil_iff.mp (List.append_eq_nil_iff.mp text.symm).1).1
      exact nonempty (String.toList_eq_nil_iff.mp noText)
    · rw [text, List.mem_append, List.mem_append]
      rintro ((inPath | inBetween) | inName)
      · exact noNul inPath
      · rcases isBetween with ⟨-, rfl⟩ | ⟨-, rfl⟩
        · cases inBetween
        · exact absurd (List.mem_singleton.mp inBetween) (by decide)
      · exact isName.noNul inName
  rw [joined, walk_append walkedNames leads.isDirectory, walk_cons leads.isDirectory,
    enter_of_isName isName]
  split <;> rfl

/-- An opening of a path is walked from where the path is walked. -/
theorem start_of_isPrefix {short path : String} (nonempty : short ≠ "")
    (isPrefix : short.toList <+: path.toList) : start short = start path := by
  rcases isPrefix with ⟨rest, text⟩
  rcases List.exists_cons_of_ne_nil fun none => nonempty (String.toList_eq_nil_iff.mp none) with
    ⟨c, cs, isText⟩
  rw [start, start, isAbsolute, isAbsolute, ← text, isText]
  rfl

/-- Segments that make up no text lead nowhere. -/
theorem place_of_empty {tree : Tree} {path : String} {names idle : List String} {place : Place}
    (split : segments path = names ++ idle) (empty : ofSegments names = "")
    (walked : tree.walk (start path) names = .ok ⟨place, false⟩)
    (isDirectory : tree.node? place = some .directory) : place = start path := by
  by_cases noNames : names = []
  · rw [noNames] at walked
    cases walked
    rfl
  · have single := segments_ofSegments split noNames
    rw [empty] at single
    rw [← single] at walked
    have step : tree.walk (start path) ([] ++ [""]) = .ok ⟨place, false⟩ := walked
    cases walk_of_walk_idle (List.forall_mem_singleton.mpr rfl) step isDirectory
    rfl

/-- Without the idle segments at its end a path leads to the same directory, unless
nothing is left of it. -/
theorem LeadsTo.trimmed {tree : Tree} {path : String} {place : Place}
    (leads : tree.LeadsTo path place) :
    Files.trimmed path = "" ∨ tree.LeadsTo (Files.trimmed path) place := by
  rcases locate_eq_ok_iff.mp leads.located with ⟨nonempty, noNul, walked⟩
  rcases exists_idle_dropIdle (segments path) with ⟨idle, split, areIdle⟩
  have isPrefix := ofSegments_isPrefix split
  rw [split] at walked
  have walkedNames : tree.walk (start path) (dropIdle (segments path)) = .ok ⟨place, false⟩ :=
    walk_of_walk_idle areIdle walked leads.isDirectory
  rw [Files.trimmed]
  by_cases empty : ofSegments (dropIdle (segments path)) = ""
  · have atStart := place_of_empty split empty walkedNames leads.isDirectory
    rw [empty]
    cases absolute : isAbsolute path with
    | false => exact .inl rfl
    | true =>
      rw [start, absolute, if_pos rfl] at atStart
      refine .inr ⟨?_, leads.isDirectory⟩
      rw [atStart]
      rfl
  · have noEmpty : (ofSegments (dropIdle (segments path))).isEmpty = false :=
      Bool.eq_false_iff.mpr fun isEmpty => empty (String.isEmpty_iff.mp isEmpty)
    have someName : dropIdle (segments path) ≠ [] := by
      intro noNames
      rw [noNames] at empty
      exact empty rfl
    rw [noEmpty, Bool.false_and, if_neg Bool.false_ne_true]
    refine .inr ⟨locate_eq_ok_iff.mpr ⟨empty, ?_, ?_⟩, leads.isDirectory⟩
    · exact fun nul => noNul (isPrefix.subset nul)
    · rw [start_of_isPrefix empty isPrefix, segments_ofSegments split someName]
      exact walkedNames

/-- A directory that is there need not be made. -/
theorem LeadsTo.makeDirectories {tree : Tree} {path : String} {place : Place}
    (leads : tree.LeadsTo path place) : tree.makeDirectories (ancestors path) = .ok tree := by
  have nonempty := (locate_eq_ok_iff.mp leads.located).1
  have first : ∃ above, ancestors path = path :: above := by
    rw [ancestors]
    cases path.length with
    | zero => exact ⟨[], rfl⟩
    | succ steps =>
      rw [ancestors.up]
      split
      · exact ⟨[], rfl⟩
      · exact ⟨_, rfl⟩
  rcases first with ⟨above, split⟩
  have isThere : tree.makeDirectory path = .error .alreadyExists := by
    rw [makeDirectory, leads.located, ok_bind]
    simp only [leads.isDirectory]
  have found : tree.isDirectory path = true := by
    rw [Tree.isDirectory, find, leads.located, ok_bind]
    simp only [leads.isDirectory]
  rw [split, Tree.makeDirectories, leftBy_eq_ok_iff, makingDirectories,
    if_neg (by rwa [String.isEmpty_iff])]
  simp only [isThere, found, if_true]

/-- Nothing is to be made before a file is written into a directory that is there. -/
theorem LeadsTo.makeDirectories_trimmed {tree : Tree} {path : String} {place : Place}
    (leads : tree.LeadsTo path place) :
    tree.makeDirectories (ancestors (Files.trimmed path)) = .ok tree := by
  rcases leads.trimmed with empty | leads
  · rw [empty]
    rfl
  · exact leads.makeDirectories

/-! ## Children -/

/-- The name of an entry in the directory at a place, with what it names. -/
def childOf (place : Place) (entry : Place × Node) : Option (Name × Node) :=
  match entry.1.getLast? with
  | some name => if entry.1.dropLast = place then some (name, entry.2) else none
  | none => none

/-- The names in the directory at a place, with what they name. -/
def children (tree : Tree) (place : Place) : List (Name × Node) :=
  tree.entries.filterMap (childOf place)

theorem childOf_eq_some_iff {place : Place} {entry : Place × Node} {name : Name} {node : Node} :
    childOf place entry = some (name, node) ↔ entry = (place ++ [name], node) := by
  rcases entry with ⟨at_, node'⟩
  constructor
  · intro isChild
    rw [childOf] at isChild
    split at isChild
    · next last found =>
      split at isChild
      · next inside =>
        cases isChild
        have nonempty : at_ ≠ [] := by
          rintro rfl
          cases found
        rw [← List.dropLast_concat_getLast nonempty, ← inside]
        rw [List.getLast?_eq_some_getLast nonempty] at found
        rw [Option.some.inj found]
      · cases isChild
    · cases isChild
  · intro same
    cases same
    simp [childOf]

/-- No name stands for two children. -/
def Distinct (tree : Tree) (place : Place) : Prop := ((tree.children place).map (·.1)).Nodup

theorem LeadsTo.list {tree : Tree} {path : String} {place : Place}
    (leads : tree.LeadsTo path place) : tree.list path = .ok (tree.children place) := by
  rw [Tree.list, leads.located, ok_bind]
  simp only [leads.isDirectory]
  rfl

theorem LeadsTo.hasPath {tree : Tree} {path : String} {place : Place}
    (leads : tree.LeadsTo path place) : tree.hasPath path = true := by
  rw [Tree.hasPath, find, leads.located, ok_bind]
  simp only [leads.isDirectory]

/-- A directory that can be listed is one to which its path leads. -/
theorem exists_leadsTo_of_list {tree : Tree} {path : String} {names : List (Name × Node)}
    (listed : tree.list path = .ok names) :
    ∃ place, tree.LeadsTo path place ∧ tree.children place = names := by
  rcases bind_eq_ok_iff.mp listed with ⟨target, located, rest⟩
  cases found : tree.node? target.place with
  | none =>
    simp only [found] at rest
    cases rest
  | some node =>
    cases node with
    | file content changed =>
      simp only [found] at rest
      cases rest
    | directory =>
      simp only [found] at rest
      exact ⟨target.place, leadsTo_of_locate located found, Except.ok.inj rest⟩

theorem isFixed_concat {name : String} (isName : IsName name) (place : Place) :
    isFixed (place ++ [.text name]) = false := by
  have noStep : Name.text name ≠ ".." := fun same => isName.noStep (Name.text.inj same)
  have noRoot : Name.text name ≠ "/" := by
    intro same
    rw [Name.text.inj same] at isName
    exact isName.noSlash List.mem_cons_self
  rw [isFixed, List.all_append, List.all_cons, decide_eq_false noStep,
    decide_eq_false noRoot, Bool.or_false, Bool.false_and, Bool.and_false]

/-- Names in one directory that have the same place are the same. -/
theorem concat_text_inj {place : Place} {name other : String} :
    place ++ [.text name] = place ++ [.text other] ↔ name = other := by
  rw [List.append_cancel_left_eq, List.singleton_inj, Name.text.injEq]

theorem mem_of_found {entries : List (Place × Node)} {place : Place} {entry : Place × Node}
    (found : (entries.find? fun entry => entry.1 = place) = some entry) :
    entry ∈ entries ∧ entry.1 = place := by
  have there := List.find?_some found
  exact ⟨List.mem_of_find?_eq_some found, of_decide_eq_true there⟩

/-- A child is looked up by its name. -/
theorem node?_concat {tree : Tree} {place : Place} (distinct : tree.Distinct place) {name : String}
    (isName : IsName name) {node : Node} :
    tree.node? (place ++ [.text name]) = some node ↔ (.text name, node) ∈ tree.children place := by
  have isChild {entry : Place × Node}
      (found : (tree.entries.find? fun entry => entry.1 = place ++ [.text name]) = some entry) :
      (.text name, entry.2) ∈ tree.children place := by
    rcases mem_of_found found with ⟨listed, there⟩
    exact List.mem_filterMap.mpr ⟨entry, listed, childOf_eq_some_iff.mpr (Prod.ext there rfl)⟩
  rw [node?, isFixed_concat isName, if_neg Bool.false_ne_true]
  constructor
  · intro found
    rcases Option.map_eq_some_iff.mp found with ⟨entry, foundEntry, rfl⟩
    exact isChild foundEntry
  · intro member
    rcases List.mem_filterMap.mp member with ⟨entry, listed, same⟩
    rw [childOf_eq_some_iff] at same
    have isSome :
        (tree.entries.find? fun entry => entry.1 = place ++ [.text name]).isSome = true := by
      rw [List.find?_isSome]
      exact ⟨entry, listed, decide_eq_true (congrArg Prod.fst same)⟩
    rcases Option.isSome_iff_exists.mp isSome with ⟨other, found⟩
    have sameChild := List.inj_on_of_nodup_map distinct (isChild found) member rfl
    rw [found, Option.map_some, congrArg Prod.snd sameChild]

theorem filterMap_childOf_filter (place : Place) (name : Name) (entries : List (Place × Node)) :
    (entries.filter fun entry => entry.1 ≠ place ++ [name]).filterMap (childOf place) =
      (entries.filterMap (childOf place)).filter fun child => child.1 ≠ name := by
  rw [List.filterMap_filter, List.filter_filterMap]
  apply List.filterMap_congr
  intro entry _
  cases isChild : childOf place entry with
  | none => simp
  | some child =>
    rw [childOf_eq_some_iff.mp isChild]
    by_cases same : child.1 = name <;> simp [Option.filter, same]

/-- What is put into a tree takes the place of what was there. -/
theorem entries_put (tree : Tree) (place : Place) (node : Node) :
    (tree.put place node).entries.Perm
      ((place, node) :: tree.entries.filter fun entry => entry.1 ≠ place) := by
  apply insertBy_perm
  intro entry member
  exact of_decide_eq_true (List.mem_filter.mp member).2

/-- The children when a name is put into the directory: what it named before is
gone. -/
theorem children_put (tree : Tree) (place : Place) (name : Name) (node : Node) :
    ((tree.put (place ++ [name]) node).children place).Perm
      ((name, node) :: (tree.children place).filter fun child => child.1 ≠ name) := by
  have inserted := (entries_put tree (place ++ [name]) node).filterMap (childOf place)
  rw [List.filterMap_cons_some (childOf_eq_some_iff.mpr rfl), filterMap_childOf_filter] at inserted
  exact inserted

/-! ## Other places -/

theorem find?_filter_of_ne {entries : List (Place × Node)} {place other : Place}
    (different : other ≠ place) :
    ((entries.filter fun entry => entry.1 ≠ place).find? fun entry => entry.1 = other) =
      entries.find? fun entry => entry.1 = other := by
  rw [List.find?_filter]
  congr 1
  funext entry
  by_cases there : entry.1 = other
  · simp [there, different]
  · simp [there]

theorem node?_put_of_ne {tree : Tree} {place other : Place} (different : other ≠ place)
    (node : Node) : (tree.put place node).node? other = tree.node? other := by
  have passed : decide ((place, node).1 = other) = false := decide_eq_false different.symm
  rw [node?, node?, put]
  dsimp only
  rw [find?_insertBy (fun entry : Place × Node => entry.1) passed, find?_filter_of_ne different]

/-- The tree without what is at the places. -/
def without (tree : Tree) (places : List Place) : Tree :=
  { tree with entries := tree.entries.filter fun entry => entry.1 ∉ places }

theorem node?_without_of_not_mem {tree : Tree} {places : List Place} {other : Place}
    (kept : other ∉ places) : (tree.without places).node? other = tree.node? other := by
  rw [node?, node?, without, List.find?_filter]
  congr 3
  funext entry
  by_cases there : entry.1 = other
  · simp [there, kept]
  · simp [there]

theorem node?_without_of_mem {tree : Tree} {places : List Place} {other : Place}
    (gone : other ∈ places) (notFixed : isFixed other = false) :
    (tree.without places).node? other = none := by
  rw [node?, notFixed, if_neg Bool.false_ne_true, Option.map_eq_none_iff, List.find?_eq_none]
  intro entry member there
  have kept := of_decide_eq_true (List.mem_filter.mp member).2
  exact kept (of_decide_eq_true there ▸ gone)

/-- The directories stay where only files are taken away. -/
theorem directory_without {tree : Tree} {places : List Place}
    (files : ∀ place ∈ places, ∃ content changed, tree.node? place = some (.file content changed))
    {other : Place} (isDirectory : tree.node? other = some .directory) :
    (tree.without places).node? other = some .directory := by
  rw [node?_without_of_not_mem]
  · exact isDirectory
  · intro gone
    rcases files other gone with ⟨content, changed, isFile⟩
    rw [isFile] at isDirectory
    cases isDirectory

theorem mem_children_iff {tree : Tree} {place : Place} {child : Name × Node} :
    child ∈ tree.children place ↔ (place ++ [child.1], child.2) ∈ tree.entries := by
  rw [children, List.mem_filterMap]
  constructor
  · rintro ⟨entry, listed, isChild⟩
    exact childOf_eq_some_iff.mp isChild ▸ listed
  · exact fun listed => ⟨_, listed, childOf_eq_some_iff.mpr rfl⟩

theorem mem_children_without {tree : Tree} {places : List Place} {place : Place}
    {child : Name × Node} :
    child ∈ (tree.without places).children place ↔
      child ∈ tree.children place ∧ place ++ [child.1] ∉ places := by
  rw [mem_children_iff, mem_children_iff, without, List.mem_filter, decide_eq_true_eq]

/-! ## Distinct names -/

theorem Distinct.without {tree : Tree} {place : Place} (distinct : tree.Distinct place)
    (places : List Place) : (tree.without places).Distinct place :=
  List.Nodup.sublist ((List.filter_sublist.filterMap _).map _) distinct

theorem Distinct.of_put {tree after : Tree} {place : Place} (distinct : tree.Distinct place)
    {name : Name} {node : Node}
    (same : (after.children place).Perm
      ((name, node) :: (tree.children place).filter fun child => child.1 ≠ name)) :
    after.Distinct place := by
  rw [Distinct, (same.map (·.1)).nodup_iff, List.map_cons, List.nodup_cons]
  refine ⟨?_, List.Nodup.sublist (List.filter_sublist.map _) distinct⟩
  rw [List.mem_map]
  rintro ⟨child, member, sameName⟩
  exact absurd sameName (of_decide_eq_true (List.mem_filter.mp member).2)

/-! ## Files -/

section

variable {tree : Tree} {path : String} {place : Place} {name : String}

theorem LeadsTo.find_join (leads : tree.LeadsTo path place) (distinct : tree.Distinct place)
    (isName : IsName name) {node : Node} :
    tree.find (join path name) = .ok node ↔
      Text.byteLength name.toList ≤ longestName ∧ (.text name, node) ∈ tree.children place := by
  rw [find, leads.locate_join isName]
  by_cases long : longestName < Text.byteLength name.toList
  · rw [if_pos long]
    exact iff_of_false nofun fun found => Nat.not_le.mpr long found.1
  · rw [if_neg long, ok_bind, ← node?_concat distinct isName]
    cases tree.node? (place ++ [.text name]) with
    | none => exact iff_of_false nofun fun found => nomatch found.2
    | some found => simp [Nat.not_lt.mp long]

theorem LeadsTo.isFile_join (leads : tree.LeadsTo path place) (distinct : tree.Distinct place)
    (isName : IsName name) :
    tree.isFile (join path name) = true ↔
      Text.byteLength name.toList ≤ longestName ∧
        ∃ content changed, (.text name, .file content changed) ∈ tree.children place := by
  rw [isFile]
  constructor
  · intro isFile
    split at isFile
    · next content changed found =>
      rcases (leads.find_join distinct isName).mp found with ⟨short, member⟩
      exact ⟨short, content, changed, member⟩
    · cases isFile
  · rintro ⟨short, content, changed, member⟩
    rw [(leads.find_join distinct isName).mpr ⟨short, member⟩]

theorem LeadsTo.read_join (leads : tree.LeadsTo path place) (distinct : tree.Distinct place)
    (isName : IsName name) (short : Text.byteLength name.toList ≤ longestName) {text : String}
    {changed : Time} (member : (.text name, .file (.text text) changed) ∈ tree.children place) :
    tree.read (join path name) = .ok text := by
  rw [read, (leads.find_join distinct isName).mpr ⟨short, member⟩]
  rfl

/-- A file that is written takes the place of the file with its name. -/
theorem LeadsTo.write_join (leads : tree.LeadsTo path place) (distinct : tree.Distinct place)
    (isName : IsName name) (short : Text.byteLength name.toList ≤ longestName)
    (noDirectory : (.text name, .directory) ∉ tree.children place) (content : Content) :
    ∃ after changed, tree.write (join path name) content = .ok after ∧ after.LeadsTo path place ∧
      (after.children place).Perm
        ((.text name, .file content changed) ::
          (tree.children place).filter fun child => child.1 ≠ .text name) := by
  have noDirectoryThere : tree.node? (place ++ [.text name]) ≠ some .directory :=
    fun there => noDirectory ((node?_concat distinct isName).mp there)
  refine ⟨{ tree with turn := tree.turn + 1 }.put (place ++ [Name.text name])
    (.file content ⟨0, tree.turn + 1⟩), ⟨0, tree.turn + 1⟩, ?_, ?_, ?_⟩
  · rw [write, leads.locate_join isName, if_neg (Nat.not_lt.mpr short), ok_bind]
    dsimp only
    split
    · next there => exact absurd there noDirectoryThere
    · rfl
    · rfl
  · refine leads.of_directories fun other isDirectory => ?_
    rw [node?_put_of_ne]
    · exact isDirectory
    · rintro rfl
      exact noDirectoryThere isDirectory
  · exact children_put { tree with turn := tree.turn + 1 } place (.text name) _

end

end Tree

end Files
end Gamebook
