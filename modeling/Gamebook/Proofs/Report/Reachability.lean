import Mathlib.Data.List.Perm.Subperm
import Mathlib.Order.Bounds.Basic
import Gamebook.Report

namespace Gamebook

/-!
# The search finds what links lead to

The search looks at a passage at a time.  It keeps the titles that it has seen,
and those among them whose passages are still to be looked at.  What a step keeps
is stated once, as an invariant of these two lists: everything seen is reached by
links, and of a passage that has been looked at every link that names a passage
leads to a title that has been seen.

Every step looks at one more passage, and no title is seen twice.  So the search
comes to an end by itself, after one step for each title that is found, and a step
for each passage of the story is enough.  What it finds is the least set of titles
that has the opening and is closed under the links that name a passage.
-/

namespace Story

/-- Only passages are reached. -/
theorem Reaches.named {story : Story} {title : String} (reached : story.Reaches title) :
    title ∈ story.titles := by
  cases reached with
  | opening => exact List.mem_cons_self
  | link from_reached member on_passage named => exact named

/-! ## New titles -/

/-- The new titles are those to which the links lead and that have not been seen. -/
theorem mem_newTitles_iff {story : Story} (keyed : story.KeyedByTitle) {seen : List String}
    {links : List Link} {title : String} :
    title ∈ story.newTitles seen links ↔
      title ∉ seen ∧ title ∈ story.titles ∧ ∃ link ∈ links, link.reference = title := by
  induction links generalizing seen with
  | nil => exact iff_of_false List.not_mem_nil fun found => by simpa using found.2.2
  | cons link links ih =>
    rw [newTitles]
    simp only [List.mem_cons, exists_eq_or_imp]
    by_cases old : link.reference ∈ seen
    · rw [if_pos (List.contains_iff_mem.mpr old), ih]
      refine and_congr_right fun new => and_congr_right fun _ => (or_iff_right ?_).symm
      rintro rfl
      exact new old
    · rw [if_neg (mt List.contains_iff_mem.mp old)]
      by_cases named : link.reference ∈ story.titles
      · rw [if_pos ((contains_iff keyed).mpr named), List.mem_cons, ih, List.mem_cons]
        by_cases same : title = link.reference
        · simp [same, old, named]
        · simp [same, Ne.symm same]
      · rw [if_neg (mt (contains_iff keyed).mp named), ih]
        refine and_congr_right fun _ => and_congr_right fun isTitle => (or_iff_right ?_).symm
        rintro rfl
        exact named isTitle

theorem newTitles_nodup {story : Story} (keyed : story.KeyedByTitle) (seen : List String)
    (links : List Link) : (story.newTitles seen links).Nodup := by
  induction links generalizing seen with
  | nil => exact .nil
  | cons link links ih =>
    unfold newTitles
    split
    · exact ih seen
    · split
      · refine List.nodup_cons.mpr ⟨fun again => ?_, ih _⟩
        exact ((mem_newTitles_iff keyed).mp again).1 List.mem_cons_self
      · exact ih seen

/-! ## The search -/

/-- What is known while the search goes on: the passages of the titles in `queue`
are still to be looked at, and `seen` has all titles found so far. -/
structure Searching (story : Story) (queue seen : List String) : Prop where
  opening : story.opening.title ∈ seen
  distinct : seen.Nodup
  waiting : queue ⊆ seen
  reached : ∀ title ∈ seen, story.Reaches title
  followed : ∀ passage ∈ story.passages, passage.title ∈ seen → passage.title ∉ queue →
    ∀ link ∈ passage.links, link.reference ∈ story.titles → link.reference ∈ seen

section

variable {story : Story} {queue seen : List String}

theorem searching_start (story : Story) :
    story.Searching [story.opening.title] [story.opening.title] where
  opening := List.mem_singleton_self _
  distinct := List.pairwise_singleton _ _
  waiting := List.Subset.refl _
  reached title member := by
    rw [List.mem_singleton.mp member]
    exact .opening
  followed _ _ wasSeen notWaiting := absurd wasSeen notWaiting

/-- A story has no more titles than passages, so no more than that are seen. -/
theorem Searching.length_le (searching : story.Searching queue seen) :
    seen.length ≤ story.size := by
  have isTitle : seen ⊆ story.titles := fun title member => (searching.reached title member).named
  have fewer := (List.subperm_of_subset searching.distinct isTitle).length_le
  rwa [titles, List.length_map] at fewer

/-- Looking at the passage that comes next keeps what is known. -/
theorem Searching.step (wellFormed : story.WellFormed) {title : String} {passage : Passage}
    (searching : story.Searching (title :: queue) seen)
    (found : story.find? title = some passage) :
    story.Searching (queue ++ story.newTitles seen passage.links)
      (story.newTitles seen passage.links ++ seen) := by
  have keyed := wellFormed.keyed
  rcases mem_of_find? keyed found with ⟨member, rfl⟩
  have isReached := searching.reached passage.title (searching.waiting List.mem_cons_self)
  have waiting : queue ⊆ seen := fun other listed =>
    searching.waiting (List.mem_cons_of_mem _ listed)
  refine ⟨List.mem_append_right _ searching.opening, ?_, ?_, ?_, ?_⟩
  · refine List.nodup_append.mpr ⟨newTitles_nodup keyed seen passage.links, searching.distinct, ?_⟩
    rintro new isNew old isOld rfl
    exact ((mem_newTitles_iff keyed).mp isNew).1 isOld
  · intro other listed
    rcases List.mem_append.mp listed with before | new
    · exact List.mem_append_right _ (waiting before)
    · exact List.mem_append_left _ new
  · intro other wasSeen
    rcases List.mem_append.mp wasSeen with new | before
    · rcases (mem_newTitles_iff keyed).mp new with ⟨-, named, link, onPassage, rfl⟩
      exact .link isReached member onPassage named
    · exact searching.reached other before
  · intro other isPassage wasSeen notWaiting link onPassage named
    rw [List.mem_append, not_or] at notWaiting
    have before : other.title ∈ seen :=
      (List.mem_append.mp wasSeen).resolve_left notWaiting.2
    by_cases same : other.title = passage.title
    · have sameFound := find?_of_mem wellFormed isPassage
      rw [same, found] at sameFound
      cases sameFound
      by_cases old : link.reference ∈ seen
      · exact List.mem_append_right _ old
      · have isNew := (mem_newTitles_iff keyed).mpr ⟨old, named, link, onPassage, rfl⟩
        exact List.mem_append_left _ isNew
    · have notNext : other.title ∉ passage.title :: queue :=
        List.not_mem_cons_of_ne_of_not_mem same notWaiting.1
      exact List.mem_append_right _
        (searching.followed other isPassage before notNext link onPassage named)

/-- When nothing waits, what was seen is what is reached. -/
theorem Searching.mem_iff (searching : story.Searching [] seen) {title : String} :
    title ∈ seen ↔ story.Reaches title := by
  refine ⟨searching.reached title, fun reached => ?_⟩
  induction reached with
  | opening => exact searching.opening
  | @link passage link from_reached member on_passage named ih =>
    exact searching.followed passage member ih List.not_mem_nil link on_passage named

/-! ## The end of the search -/

/-- The search as it goes on by itself, until nothing waits.  It has no number of steps
to begin with; they are counted as it goes. -/
inductive Ends (story : Story) : List String → List String → Nat → List String → Prop
  | done {seen : List String} : Ends story [] seen 0 seen
  | look {title : String} {passage : Passage} {queue seen found : List String} {steps : Nat}
      (isNext : story.find? title = some passage)
      (rest : Ends story (queue ++ story.newTitles seen passage.links)
        (story.newTitles seen passage.links ++ seen) steps found) :
      Ends story (title :: queue) seen (steps + 1) found

/-- A bound on the steps makes no difference once there are as many as are taken. -/
theorem Ends.search_eq {found : List String} {steps fuel : Nat}
    (ends : story.Ends queue seen steps found) (enough : steps ≤ fuel) :
    story.search fuel queue seen = found := by
  induction ends generalizing fuel with
  | done => cases fuel <;> rfl
  | look isNext rest ih =>
    cases fuel with
    | zero => exact absurd enough (Nat.not_succ_le_zero _)
    | succ fuel =>
      simp only [search, isNext]
      exact ih (Nat.le_of_succ_le_succ enough)

/-- The search ends.  Each title that waits or that is found later takes one step, so
there are no more steps than passages that have not been looked at. -/
theorem Searching.exists_ends (wellFormed : story.WellFormed) {fuel : Nat}
    (searching : story.Searching queue seen)
    (enough : story.size + queue.length ≤ fuel + seen.length) :
    ∃ steps found, story.Ends queue seen steps found ∧ story.Searching [] found ∧
      steps + seen.length = queue.length + found.length ∧ steps ≤ fuel := by
  induction fuel generalizing queue seen with
  | zero =>
    have few := searching.length_le
    have none_waiting : queue = [] := List.length_eq_zero_iff.mp (by omega)
    subst none_waiting
    exact ⟨0, seen, .done, searching, rfl, Nat.le_refl 0⟩
  | succ fuel ih =>
    cases queue with
    | nil => exact ⟨0, seen, .done, searching, rfl, Nat.zero_le _⟩
    | cons next queue =>
      have named := (searching.reached next (searching.waiting List.mem_cons_self)).named
      rcases Option.isSome_iff_exists.mp ((isSome_find?_iff wellFormed.keyed).mpr named) with
        ⟨passage, isNext⟩
      have onward := searching.step wellFormed isNext
      rw [List.length_cons] at enough
      rcases ih onward (by simp only [List.length_append]; omega) with
        ⟨steps, found, ends, ended, count, within⟩
      simp only [List.length_append] at count
      refine ⟨steps + 1, found, .look isNext ends, ended, ?_, Nat.succ_le_succ within⟩
      rw [List.length_cons]
      omega

/-- From the opening the search takes one step for each title that it finds, and the
report lists these titles. -/
theorem exists_ends_start (wellFormed : story.WellFormed) :
    ∃ found, story.Ends [story.opening.title] [story.opening.title] found.length found ∧
      story.Searching [] found ∧ story.reachable = ascending found := by
  rcases (searching_start story).exists_ends wellFormed (Nat.le_refl _) with
    ⟨steps, found, ends, ended, count, within⟩
  have asMany : steps = found.length := by
    simp only [List.length_singleton] at count
    omega
  refine ⟨found, asMany ▸ ends, ended, ?_⟩
  rw [reachable, ends.search_eq within]

/-! ## The report's lists -/

/-- The search from the opening finds the titles that links lead to, and no others. -/
theorem mem_reachable_iff (wellFormed : story.WellFormed) {title : String} :
    title ∈ story.reachable ↔ story.Reaches title := by
  rcases exists_ends_start wellFormed with ⟨found, -, ended, listed⟩
  rw [listed, mem_ascending]
  exact ended.mem_iff

/-- The titles listed as unreachable are those of stored passages that no links lead
to. -/
theorem mem_unreachable_iff (wellFormed : story.WellFormed) {title : String} :
    title ∈ story.unreachable ↔
      title ∈ story.stored.map Passage.title ∧ ¬ story.Reaches title := by
  rw [unreachable, mem_ascending, List.mem_filter, Bool.not_eq_true', ← Bool.not_eq_true,
    List.contains_iff_mem, mem_reachable_iff wellFormed]

theorem ascending_nodup (xs : List String) : (ascending xs).Nodup := by
  have ordered : Ascending id (ascending xs) := ascendingBy_ascending id xs
  have distinct := ordered.nodup_map
  rwa [List.map_id] at distinct

/-- Every title of the story is listed once, as reachable or as unreachable. -/
theorem reachable_append_unreachable_perm (wellFormed : story.WellFormed) :
    (story.reachable ++ story.unreachable).Perm story.titles := by
  have distinct : (story.reachable ++ story.unreachable).Nodup := by
    refine List.nodup_append.mpr ⟨ascending_nodup _, ascending_nodup _, ?_⟩
    rintro title isReachable other isUnreachable rfl
    exact ((mem_unreachable_iff wellFormed).mp isUnreachable).2
      ((mem_reachable_iff wellFormed).mp isReachable)
  refine (List.perm_ext_iff_of_nodup distinct wellFormed.titles_nodup).mpr fun title => ?_
  rw [List.mem_append, mem_reachable_iff wellFormed, mem_unreachable_iff wellFormed]
  constructor
  · rintro (reached | ⟨stored, -⟩)
    · exact reached.named
    · exact List.mem_cons_of_mem _ stored
  · intro named
    by_cases reached : story.Reaches title
    · exact .inl reached
    · rcases List.mem_cons.mp named with rfl | stored
      · exact absurd .opening reached
      · exact .inr ⟨stored, reached⟩

/-! ## The least closed set -/

/-- Says that titles are closed under links: the opening's is among them, and so is
every title to which a passage with one of them links, if it names a passage. -/
structure ClosedUnderLinks (story : Story) (titles : Set String) : Prop where
  opening : story.opening.title ∈ titles
  followed : ∀ passage ∈ story.passages, passage.title ∈ titles →
    ∀ link ∈ passage.links, link.reference ∈ story.titles → link.reference ∈ titles

/-- Whatever is reached is in every closed set. -/
theorem ClosedUnderLinks.mem_of_reaches {titles : Set String}
    (closed : story.ClosedUnderLinks titles) {title : String} (reached : story.Reaches title) :
    title ∈ titles := by
  induction reached with
  | opening => exact closed.opening
  | link from_reached member on_passage named ih =>
    exact closed.followed _ member ih _ on_passage named

theorem isLeast_reachable (wellFormed : story.WellFormed) :
    IsLeast { titles | story.ClosedUnderLinks titles } { title | title ∈ story.reachable } := by
  constructor
  · refine ⟨(mem_reachable_iff wellFormed).mpr .opening, ?_⟩
    intro passage member isReachable link onPassage named
    have reached := (mem_reachable_iff wellFormed).mp isReachable
    exact (mem_reachable_iff wellFormed).mpr (.link reached member onPassage named)
  · intro titles closed title isReachable
    exact closed.mem_of_reaches ((mem_reachable_iff wellFormed).mp isReachable)

end

/-- However the links run, the search ends, after a step for each title that it finds
and so after no more steps than there are passages.  It finds the least set of titles
that is closed under links, the stored titles outside of it are called unreachable,
and so each title of the story is either reachable or unreachable. -/
theorem search_finds_least {story : Story} (wellFormed : story.WellFormed) :
    (∃ found, story.Ends [story.opening.title] [story.opening.title] found.length found ∧
      found.length ≤ story.size ∧ story.reachable = ascending found) ∧
    IsLeast { titles | story.ClosedUnderLinks titles } { title | title ∈ story.reachable } ∧
    (∀ title, title ∈ story.unreachable ↔
      title ∈ story.stored.map Passage.title ∧ title ∉ story.reachable) ∧
    (story.reachable ++ story.unreachable).Perm story.titles := by
  rcases exists_ends_start wellFormed with ⟨found, ends, ended, listed⟩
  refine ⟨⟨found, ends, ended.length_le, listed⟩, isLeast_reachable wellFormed, fun title => ?_,
    reachable_append_unreachable_perm wellFormed⟩
  rw [mem_unreachable_iff wellFormed, mem_reachable_iff wellFormed]

/-- Passages that lead round in circles, one of them to itself and to nothing at all,
and one to which no link leads. -/
def labyrinth : Story where
  title := "The labyrinth"
  opening :=
    ⟨"Gate", "Rust.", .tense, false, [⟨⟨"In", "Turn"⟩, []⟩, ⟨⟨"Wait", "Gate"⟩, []⟩]⟩
  filed := Story.filing
    [⟨"Tower", "Far off.", .none, false, [⟨⟨"Down", "Turn"⟩, []⟩]⟩,
      ⟨"Turn", "Dust.", .dark, false,
        [⟨⟨"Again", "Turn"⟩, []⟩, ⟨⟨"Dig", "Well"⟩, []⟩, ⟨⟨"Back", "Gate"⟩, []⟩]⟩]

theorem search_finds_least_labyrinth :
    labyrinth.WellFormed ∧ labyrinth.reachable = ["Gate", "Turn"] ∧
      labyrinth.unreachable = ["Tower"] ∧
    (∃ found, labyrinth.Ends ["Gate"] ["Gate"] found.length found ∧
      found.length ≤ labyrinth.size ∧ labyrinth.reachable = ascending found) ∧
    IsLeast { titles | labyrinth.ClosedUnderLinks titles } { title | title ∈ labyrinth.reachable } ∧
    (∀ title, title ∈ labyrinth.unreachable ↔
      title ∈ labyrinth.stored.map Passage.title ∧ title ∉ labyrinth.reachable) ∧
    (labyrinth.reachable ++ labyrinth.unreachable).Perm labyrinth.titles :=
  ⟨by decide, by decide, by decide, search_finds_least (by decide)⟩

end Story

end Gamebook
