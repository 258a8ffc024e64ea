import Gamebook.Proofs.Session.Run

namespace Gamebook

/-!
# Single visits of a session that is taken up again

Whether a passage may be entered once more is decided by the visits that a session
remembers, and by nothing else.  A session that was started has its own position
among the visits.  One that is taken up from what was kept has it there only when
the kept visits say so, or when there are none: the position is not put in.

So the visits from before and those of the run are never repeated, but a passage
on which a session is taken up may be entered once more when it is not among the
visits that were kept.
-/

/-- The title of the passage that a choice has led to, if it was not refused. -/
def Sight.landing (sight : Sight) : Option String :=
  sight.answer.toOption.map Passage.title

/-- Says that a title names a passage, other than the opening, that is for a single
visit. -/
def Story.OnceOnly (story : Story) (title : String) : Prop :=
  title ≠ story.opening.title ∧
    ∃ passage, story.find? title = some passage ∧ passage.singleVisit = true

/-- Says that the position is among the visits that are kept, or that no visits are. -/
def Snapshot.Recorded (kept : Snapshot) : Prop :=
  kept.visited = [] ∨ kept.passage ∈ kept.visited

namespace Session

/-- Where the choices have led, in order. -/
def arrivals (session : Session) (keys : List LinkKey) : List String :=
  (session.play keys).1.filterMap Sight.landing

/-- Says that a session was resumed from what was kept of one, or read from a
document in which that is written. -/
inductive TakenUp (kept : Snapshot) (session : Session) : Prop
  | resumed (keyed : kept.game.story.KeyedByTitle) (restored : restore kept = .ok session)
  | read {text : String} (written : Json.decode Document.takeSnapshot text = .ok kept)
    (decoded : ofJson text = .ok session)

/-- To read a session is to resume what the document says. -/
theorem TakenUp.restored {kept : Snapshot} {session : Session} (taken : TakenUp kept session) :
    restore kept = .ok session := by
  cases taken with
  | resumed keyed restored => exact restored
  | read written decoded =>
    rcases ofJson_eq_ok_iff.mp decoded with ⟨said, saysSo, restored⟩
    cases written.symm.trans saysSo
    exact restored

/-- The passages of a story that was read are under their own keys, too. -/
theorem TakenUp.keyed {kept : Snapshot} {session : Session} (taken : TakenUp kept session) :
    kept.game.story.KeyedByTitle := by
  cases taken with
  | resumed keyed restored => exact keyed
  | read written decoded =>
    exact (Document.wellFormed_of_decode written).keyed

/-! ## What one choice adds to the visits -/

/-- A choice leads nowhere and changes nothing, or it follows a link that may be
followed to where the link leads. -/
theorem landing_look {session : Session} (standing : session.Standing) (key : LinkKey) :
    ((session.look key).1.landing = none ∧ (session.look key).2 = session) ∨
      ∃ link player, session.MayFollow link ∧
        (session.look key).1.landing = some link.reference ∧
          (session.look key).2 = session.moved link player := by
  rcases Option.isSome_iff_exists.mp standing.current with ⟨passage, found⟩
  rcases choose_cases standing found key with ⟨refused, -⟩ |
    ⟨link, target, -, free, leads, ⟨violation, refused, -⟩ | ⟨player, chosen, -⟩⟩
  · rw [look, refused]
    exact .inl ⟨rfl, rfl⟩
  · rw [look, refused]
    exact .inl ⟨rfl, rfl⟩
  · rw [look, chosen]
    have title := (Story.mem_of_find? standing.keyed leads).2
    exact .inr ⟨link, player, free, congrArg some title, rfl⟩

/-- A link that may be followed does not lead back to a passage for a single visit. -/
theorem MayFollow.not_mem_visited {session : Session} {link : Link} (free : session.MayFollow link)
    (once : session.story.OnceOnly link.reference) : link.reference ∉ session.visited := by
  rcases once with ⟨apart, passage, found, single⟩
  rcases free with ⟨target, leads, opening | unvisited | repeatable⟩
  · exact absurd opening apart
  · exact unvisited
  · rw [found] at leads
    cases leads
    rw [single] at repeatable
    cases repeatable

theorem arrivals_cons_of_none {session : Session} {key : LinkKey}
    (refused : (session.look key).1.landing = none) (keys : List LinkKey) :
    session.arrivals (key :: keys) = (session.look key).2.arrivals keys :=
  List.filterMap_cons_none refused

theorem arrivals_cons_of_some {session : Session} {key : LinkKey} {title : String}
    (landed : (session.look key).1.landing = some title) (keys : List LinkKey) :
    session.arrivals (key :: keys) = title :: (session.look key).2.arrivals keys :=
  List.filterMap_cons_some landed

/-! ## What a run adds -/

/-- A run does not arrive at a passage for a single visit that was visited before,
neither before the run nor on the way. -/
theorem not_mem_of_arrivals {session : Session} (standing : session.Standing)
    {keys : List LinkKey} {before after : List String} {title : String}
    (arrived : session.arrivals keys = before ++ title :: after)
    (once : session.story.OnceOnly title) : title ∉ session.visited ++ before := by
  induction keys generalizing session before with
  | nil => exact absurd arrived.symm (List.append_ne_nil_of_right_ne_nil _ (List.cons_ne_nil _ _))
  | cons key keys ih =>
    have next : (session.look key).2.Standing := standing_choose standing key
    rcases landing_look standing key with ⟨refused, same⟩ | ⟨link, player, free, landed, same⟩
    · rw [arrivals_cons_of_none refused, same] at arrived
      exact ih standing arrived once
    · rw [arrivals_cons_of_some landed, same] at arrived
      rw [same] at next
      cases before with
      | nil =>
        rcases List.cons.inj arrived with ⟨rfl, -⟩
        rw [List.append_nil]
        exact free.not_mem_visited once
      | cons first before =>
        rcases List.cons.inj arrived with ⟨rfl, later⟩
        have apart := ih next later once
        rw [moved, List.append_assoc] at apart
        exact apart

/-! ## Positions among the visits -/

/-- The session that stands on the opening has visited it. -/
theorem recorded_start (game : Game) : (start game).snapshot.Recorded :=
  .inr List.mem_cons_self

/-- A position that is among the visits stays there, whatever is chosen. -/
theorem recorded_play {session : Session} (recorded : session.snapshot.Recorded)
    (keys : List LinkKey) : (session.play keys).2.snapshot.Recorded := by
  induction keys generalizing session with
  | nil => exact recorded
  | cons key keys ih =>
    have next : (session.look key).2.snapshot.Recorded := by
      rcases after_choose_cases session key with same | ⟨target, player, same⟩
      · rw [look, same]
        exact recorded
      · rw [look, same]
        exact .inr (List.mem_append_right session.visited List.mem_cons_self)
    exact ih next

/-- The kept visits are the visits of the session that is taken up, and so is a
position that is recorded. -/
theorem mem_visited_of_restore {kept : Snapshot} (keyed : kept.game.story.KeyedByTitle)
    {session : Session} (restored : restore kept = .ok session) {title : String}
    (stood : title ∈ kept.visited ∨ kept.Recorded ∧ title = kept.passage) :
    title ∈ session.visited := by
  rcases (restore_eq_ok_iff keyed).mp restored with ⟨-, rfl⟩
  by_cases none : kept.visited = []
  · rcases stood with visited | ⟨-, rfl⟩
    · rw [none] at visited
      exact absurd visited List.not_mem_nil
    · simp only [none, List.isEmpty_nil, if_true]
      exact List.mem_cons_self
  · have some : kept.visited.isEmpty = false := List.isEmpty_eq_false_iff.mpr none
    simp only [some]
    rcases stood with visited | ⟨recorded, rfl⟩
    · exact visited
    · exact recorded.resolve_left none

/-- A session that is taken up does not lead to a passage for a single visit twice,
and not at all to one that the kept visits name.  The passage on which it is taken
up is among these when its position was recorded, which holds of whatever is kept
of a session that was started, and of one that was taken up so. -/
theorem arrivals_of_takenUp {kept : Snapshot} {session : Session} (taken : TakenUp kept session)
    (keys : List LinkKey) :
    (∀ before title after, session.arrivals keys = before ++ title :: after →
        kept.game.story.OnceOnly title →
          title ∉ kept.visited ∧ title ∉ before ∧ (kept.Recorded → title ≠ kept.passage)) ∧
      (kept.Recorded → (session.play keys).2.snapshot.Recorded) ∧
      ∀ game choices, kept = ((start game).play choices).2.snapshot → kept.Recorded := by
  have keyed := taken.keyed
  have restored := taken.restored
  have standing := standing_restore keyed restored
  have story : session.story = kept.game.story := by
    rcases (restore_eq_ok_iff keyed).mp restored with ⟨-, rfl⟩
    rfl
  refine ⟨?_, ?_, ?_⟩
  · intro before title after arrived once
    rw [← story] at once
    have apart := not_mem_of_arrivals standing arrived once
    rw [List.mem_append, not_or] at apart
    refine ⟨?_, apart.2, ?_⟩
    · intro visited
      exact apart.1 (mem_visited_of_restore keyed restored (.inl visited))
    · intro recorded same
      exact apart.1 (mem_visited_of_restore keyed restored (.inr ⟨recorded, same⟩))
  · intro recorded
    refine recorded_play (.inr ?_) keys
    have stands : session.current = kept.passage := by
      rcases (restore_eq_ok_iff keyed).mp restored with ⟨-, rfl⟩
      rfl
    exact mem_visited_of_restore keyed restored (.inr ⟨recorded, stands⟩)
  · rintro game choices rfl
    exact recorded_play (recorded_start game) choices

/-- The boat is taken once, and the second time it is not offered. -/
theorem arrivals_of_takenUp_ferry :
    ∃ session, TakenUp ⟨ferry, "Quay", ["Quay"]⟩ session ∧
      session.arrivals [⟨"Pay", "Boat"⟩, ⟨"Return", "Quay"⟩, ⟨"Pay", "Boat"⟩] = ["Boat", "Quay"] ∧
      "Boat" ∉ ["Quay"] ∧ "Boat" ≠ "Quay" := by
  have restored : restore ⟨ferry, "Quay", ["Quay"]⟩ = .ok (start ferry) := by rfl
  have arrived : (start ferry).arrivals
      [⟨"Pay", "Boat"⟩, ⟨"Return", "Quay"⟩, ⟨"Pay", "Boat"⟩] = ["Boat", "Quay"] := by rfl
  have once : ferry.story.OnceOnly "Boat" := ⟨by decide, _, rfl, rfl⟩
  have taken : TakenUp ⟨ferry, "Quay", ["Quay"]⟩ (start ferry) :=
    .resumed wellFormed_ferry.story.keyed restored
  rcases arrivals_of_takenUp taken
      [⟨"Pay", "Boat"⟩, ⟨"Return", "Quay"⟩, ⟨"Pay", "Boat"⟩] with ⟨single, -⟩
  rcases single [] "Boat" ["Quay"] arrived once with ⟨unvisited, -, apart⟩
  exact ⟨start ferry, taken, arrived, unvisited, apart (.inr List.mem_cons_self)⟩

/-- A session that is taken up on a passage for a single visit may enter it again,
when the visits that were kept do not name it. -/
theorem exists_second_arrival :
    ¬ ∀ (kept : Snapshot) (session : Session) (keys : List LinkKey) (before : List String)
        (title : String) (after : List String), kept.game.WellFormed → TakenUp kept session →
      session.arrivals keys = before ++ title :: after → kept.game.story.OnceOnly title →
        title ∉ kept.visited ∧ title ≠ kept.passage ∧ title ∉ before := by
  intro single
  have once : ferry.story.OnceOnly "Boat" := ⟨by decide, _, rfl, rfl⟩
  have restored : restore ⟨ferry, "Boat", ["Quay"]⟩ =
      .ok ⟨ferry, "Boat", ["Quay"], ferry.story.brokenLinks⟩ := by rfl
  rcases single ⟨ferry, "Boat", ["Quay"]⟩ _ [⟨"Return", "Quay"⟩, ⟨"Pay", "Boat"⟩] ["Quay"] "Boat" []
    wellFormed_ferry (.resumed wellFormed_ferry.story.keyed restored) rfl once with ⟨-, apart, -⟩
  exact apart rfl

end Session
end Gamebook
