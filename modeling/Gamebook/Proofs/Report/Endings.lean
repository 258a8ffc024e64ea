import Gamebook.Proofs.Report.Reachability

namespace Gamebook

/-!
# Whether a story can come to an end

A report calls a story playable when no link is broken and some passage has no
links.  It does not ask where that passage is.  What a reader can do is told here
by walks: links that are followed one after the other, from the opening on.  A story
can end when some walk leads to a passage without links.

The two are compared.  The endings that can be reached are those that the report does
not list as unreachable as well.  If there are none, a playable story has no walk that
must stop: every walk goes on, however many more links are asked for.
-/

namespace Story

/-! ## Walks -/

/-- The links that are followed from the opening, and the title of the passage to which
they lead.  A broken link cannot be followed. -/
inductive Walk (story : Story) : List Link → String → Prop
  | stay : Walk story [] story.opening.title
  | follow {links : List Link} {passage : Passage} {link : Link}
      (walk : Walk story links passage.title) (member : passage ∈ story.passages)
      (onPassage : link ∈ passage.links) (named : link.reference ∈ story.titles) :
      Walk story (links ++ [link]) link.reference

/-- Says that a walk leads to a passage without links. -/
def CanEnd (story : Story) : Prop :=
  ∃ links passage, passage ∈ story.passages ∧ story.Walk links passage.title ∧
    passage.links = []

/-- Says that every link of the story leads to one of its passages. -/
def Unbroken (story : Story) : Prop :=
  ∀ passage ∈ story.passages, ∀ link ∈ passage.links, link.reference ∈ story.titles

section

variable {story : Story} {links : List Link} {title : String}

/-- A title is reached when a walk leads to it. -/
theorem reaches_iff_exists_walk : story.Reaches title ↔ ∃ links, story.Walk links title := by
  constructor
  · intro reached
    induction reached with
    | opening => exact ⟨[], .stay⟩
    | link _ member onPassage named ih =>
      rcases ih with ⟨links, walk⟩
      exact ⟨_, walk.follow member onPassage named⟩
  · rintro ⟨links, walk⟩
    induction walk with
    | stay => exact .opening
    | follow _ member onPassage named ih => exact .link ih member onPassage named

/-- A walk leads to a passage. -/
theorem Walk.exists_passage (walk : story.Walk links title) :
    ∃ passage ∈ story.passages, passage.title = title := by
  have named := (reaches_iff_exists_walk.mpr ⟨links, walk⟩).named
  exact List.mem_map.mp named

/-! ## The endings of a report -/

theorem isEnding_iff {passage : Passage} : passage.isEnding = true ↔ passage.links = [] :=
  List.isEmpty_iff

theorem mem_deadEnds_iff :
    title ∈ story.deadEnds ↔
      ∃ passage ∈ story.passages, passage.links = [] ∧ passage.title = title := by
  rw [deadEnds, List.mem_map]
  apply exists_congr
  intro passage
  rw [List.mem_filter, isEnding_iff, and_assoc]

theorem brokenLinks_eq_nil_iff : story.brokenLinks = [] ↔ story.Unbroken := by
  rw [List.eq_nil_iff_forall_not_mem]
  constructor
  · intro none_broken passage member link onPassage
    by_contra broken
    exact none_broken _ ((key_mem_brokenLinks_iff member onPassage).mpr broken)
  · intro unbroken key isBroken
    rcases mem_brokenLinks_iff.mp isBroken with ⟨⟨passage, member, offered⟩, broken⟩
    rcases List.mem_map.mp (Passage.hasLink_iff.mp offered) with ⟨link, onPassage, rfl⟩
    exact broken (unbroken passage member link onPassage)

/-- What a report asks of a playable story. -/
theorem isPlayable_iff :
    (Report.ofStory story).isPlayable = true ↔
      story.Unbroken ∧ ∃ passage ∈ story.passages, passage.links = [] := by
  have some_ending : story.deadEnds ≠ [] ↔ ∃ passage ∈ story.passages, passage.links = [] := by
    constructor
    · intro nonempty
      rcases List.exists_mem_of_ne_nil _ nonempty with ⟨title, listed⟩
      rcases mem_deadEnds_iff.mp listed with ⟨passage, member, isEnding, -⟩
      exact ⟨passage, member, isEnding⟩
    · rintro ⟨passage, member, isEnding⟩
      exact List.ne_nil_of_mem (mem_deadEnds_iff.mpr ⟨passage, member, isEnding, rfl⟩)
  rw [Report.isPlayable, Report.ofStory, Bool.and_eq_true, List.isEmpty_iff, Bool.not_eq_true',
    ← Bool.not_eq_true, List.isEmpty_iff, brokenLinks_eq_nil_iff, ← some_ending]

/-- A story can end when an ending is among the titles that the search finds. -/
theorem canEnd_iff_reachable (wellFormed : story.WellFormed) :
    story.CanEnd ↔ ∃ title ∈ story.deadEnds, title ∈ story.reachable := by
  constructor
  · rintro ⟨links, passage, member, walk, isEnding⟩
    refine ⟨passage.title, mem_deadEnds_iff.mpr ⟨passage, member, isEnding, rfl⟩, ?_⟩
    exact (mem_reachable_iff wellFormed).mpr (reaches_iff_exists_walk.mpr ⟨links, walk⟩)
  · rintro ⟨title, listed, found⟩
    rcases mem_deadEnds_iff.mp listed with ⟨passage, member, isEnding, rfl⟩
    rcases reaches_iff_exists_walk.mp ((mem_reachable_iff wellFormed).mp found) with ⟨links, walk⟩
    exact ⟨links, passage, member, walk, isEnding⟩

/-- A passage is reached unless it is listed as unreachable. -/
theorem mem_reachable_iff_not_mem_unreachable (wellFormed : story.WellFormed)
    (named : title ∈ story.titles) : title ∈ story.reachable ↔ title ∉ story.unreachable := by
  rw [mem_reachable_iff wellFormed, mem_unreachable_iff wellFormed]
  constructor
  · intro reached listed
    exact listed.2 reached
  · intro unlisted
    by_contra unreached
    rcases List.mem_cons.mp named with rfl | stored
    · exact unreached .opening
    · exact unlisted ⟨stored, unreached⟩

/-- A story can end when its report lists an ending that it does not list as
unreachable. -/
theorem canEnd_iff_listed (wellFormed : story.WellFormed) :
    story.CanEnd ↔ ∃ title ∈ story.deadEnds, title ∉ story.unreachable := by
  rw [canEnd_iff_reachable wellFormed]
  apply exists_congr
  intro title
  apply and_congr_right
  intro listed
  rcases mem_deadEnds_iff.mp listed with ⟨passage, member, -, rfl⟩
  exact mem_reachable_iff_not_mem_unreachable wellFormed (List.mem_map_of_mem member)

/-! ## Walks without an end -/

/-- Where no link is broken, a walk that is not at an ending can take a step. -/
theorem Walk.exists_step (unbroken : story.Unbroken) (endless : ¬ story.CanEnd)
    (walk : story.Walk links title) :
    ∃ link, story.Walk (links ++ [link]) link.reference := by
  rcases walk.exists_passage with ⟨passage, member, rfl⟩
  have some_link : passage.links ≠ [] := fun isEnding =>
    endless ⟨links, passage, member, walk, isEnding⟩
  rcases List.exists_mem_of_ne_nil _ some_link with ⟨link, onPassage⟩
  exact ⟨link, walk.follow member onPassage (unbroken passage member link onPassage)⟩

/-- It can take any number of them. -/
theorem Walk.exists_steps (unbroken : story.Unbroken) (endless : ¬ story.CanEnd)
    (walk : story.Walk links title) (steps : Nat) :
    ∃ more target, more.length = steps ∧ story.Walk (links ++ more) target := by
  induction steps with
  | zero => exact ⟨[], title, rfl, by rwa [List.append_nil]⟩
  | succ steps ih =>
    rcases ih with ⟨more, target, length, further⟩
    rcases further.exists_step unbroken endless with ⟨link, again⟩
    refine ⟨more ++ [link], link.reference, ?_, ?_⟩
    · rw [List.length_append, length, List.length_singleton]
    · rwa [← List.append_assoc]

end

/-- A report calls a story playable when no link is broken and some passage, wherever it
is, has no links.  The story can then end if some ending is not listed as unreachable,
which is to say that the search finds it.  Otherwise all its walks go on for ever. -/
theorem endings_of_report {story : Story} (wellFormed : story.WellFormed) :
    ((Report.ofStory story).isPlayable = true ↔
      story.Unbroken ∧ ∃ passage ∈ story.passages, passage.links = []) ∧
    (story.CanEnd ↔ ∃ title ∈ story.deadEnds, title ∈ story.reachable) ∧
    (story.CanEnd ↔ ∃ title ∈ (Report.ofStory story).deadEnds,
      title ∉ (Report.ofStory story).unreachable) ∧
    ((Report.ofStory story).isPlayable = true → ¬ story.CanEnd →
      ∀ links title, story.Walk links title → ∀ steps,
        ∃ more target, more.length = steps ∧ story.Walk (links ++ more) target) := by
  refine ⟨isPlayable_iff, canEnd_iff_reachable wellFormed, canEnd_iff_listed wellFormed, ?_⟩
  intro playable endless links title walk steps
  exact walk.exists_steps (isPlayable_iff.mp playable).1 endless steps

/-- A ride from which no link leads to the street. -/
def carousel : Story where
  title := "Carousel"
  opening := ⟨"Ride", "Music.", .none, false, [⟨⟨"Again", "Ride"⟩, []⟩]⟩
  filed := Story.filing [⟨"Street", "Quiet.", .none, false, []⟩]

theorem not_canEnd_carousel : ¬ carousel.CanEnd := by
  rw [canEnd_iff_listed (by decide)]
  decide

/-- A playable story need not have an ending that can be reached. -/
theorem exists_playable_endless :
    ¬ ∀ story : Story, story.WellFormed → (Report.ofStory story).isPlayable = true →
      ∃ title ∈ story.deadEnds, title ∈ story.reachable := by
  intro always
  have wellFormed : carousel.WellFormed := by decide
  have found := always carousel wellFormed (by decide)
  exact not_canEnd_carousel ((canEnd_iff_reachable wellFormed).mpr found)

/-- The ride goes on for as long as one likes. -/
theorem endings_of_report_carousel :
    carousel.WellFormed ∧ (Report.ofStory carousel).isPlayable = true ∧ ¬ carousel.CanEnd ∧
      ∀ links title, carousel.Walk links title → ∀ steps,
        ∃ more target, more.length = steps ∧ carousel.Walk (links ++ more) target := by
  have wellFormed : carousel.WellFormed := by decide
  have playable : (Report.ofStory carousel).isPlayable = true := by decide
  have endings := endings_of_report wellFormed
  exact ⟨wellFormed, playable, not_canEnd_carousel,
    endings.2.2.2 playable not_canEnd_carousel⟩

end Story

end Gamebook
