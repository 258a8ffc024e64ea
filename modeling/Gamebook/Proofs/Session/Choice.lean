import Gamebook.Proofs.Document.Soundness

namespace Gamebook

/-!
# What one choice does

A session looks for its broken links once and remembers them by their keys, and
it keeps the title of its passage instead of the passage.  Both are harmless as
long as the story has its passages under their own keys, the title names a passage
and the broken links are those of the story.  That is so when a session is started
or resumed, and no choice changes it.

From this it follows which of the three answers a choice has, and that the
fourth one, a link to a passage that does not exist, is never given.
-/

namespace Session

/-- What a session relies on: a passage is under the key that its title makes, the
session's title names a passage, and the broken links are the story's. -/
structure Standing (session : Session) : Prop where
  keyed : session.story.KeyedByTitle
  current : (session.story.find? session.current).isSome = true
  broken : session.broken = session.story.brokenLinks

/-- A session that was started, resumed or read, or that a choice has led to.  Stories
are built passage by passage, which puts each under the key that its title makes. -/
inductive Reachable : Session → Prop
  | started (game : Game) (keyed : game.story.KeyedByTitle) : Reachable (start game)
  | resumed {kept : Snapshot} {session : Session} (keyed : kept.game.story.KeyedByTitle)
    (restored : restore kept = .ok session) : Reachable session
  | read {text : String} {session : Session} (decoded : ofJson text = .ok session) :
    Reachable session
  | chosen {session : Session} (reachable : Reachable session) (key : LinkKey) :
    Reachable (session.choose key).2

/-- Says that a link leads to a passage of the story that may be visited now: the
opening, a passage that was not visited yet, or one that may be visited again. -/
def MayFollow (session : Session) (link : Link) : Prop :=
  ∃ target, session.story.find? link.reference = some target ∧
    (link.reference = session.story.opening.title ∨ link.reference ∉ session.visited ∨
      target.singleVisit = false)

/-- The session that has followed a link, with the player as the link's actions
have left it. -/
def moved (session : Session) (link : Link) (player : Player) : Session :=
  { session with
    game := { session.game with player }
    current := link.reference
    visited := session.visited ++ [link.reference] }

/-- The session that has come to a passage. -/
def arrived (session : Session) (target : Passage) (player : Player) : Session :=
  { session with
    game := { session.game with player }
    current := target.title
    visited := session.visited ++ [target.title] }

/-! ## Following a link -/

theorem run_insist {ε α β : Type} (reason : ε → ChoiceError) (value : Except ε α)
    (rest : α → ExceptT ChoiceError (StateM Session) β) (session : Session) :
    (insist reason value >>= rest).run.run session =
      match value with
      | .ok found => (rest found).run.run session
      | .error cause => (.error (reason cause), session) := by
  cases value <;> rfl

theorem passage_of_find? {session : Session} {passage : Passage}
    (found : session.story.find? session.current = some passage) : session.passage = passage := by
  rw [Session.passage, found, Option.getD_some]

/-- What following a link does, in any story and to any session. -/
theorem run_follow_eq (session : Session) (link : Link) :
    (follow link).run.run session =
      match session.game.follow link with
      | .error missing => (.error (.missing missing), session)
      | .ok target =>
        match Action.executeAll link.actions session.player with
        | .error violation => (.error (.rejected violation), session)
        | .ok player =>
          (.ok (session.arrived target player).passage, session.arrived target player) := by
  have reads : (follow link).run.run session =
      (insist .missing (session.game.follow link) >>= fun target =>
        insist .rejected (Action.executeAll link.actions session.player) >>= fun player => do
          modify fun session => { session with game := { session.game with player } }
          modify fun session => { session with visited := session.visited ++ [target.title] }
          modify fun session => { session with current := target.title }
          return (← get).passage : ExceptT ChoiceError (StateM Session) Passage).run.run session :=
    rfl
  rw [reads, run_insist]
  cases session.game.follow link with
  | error missing => rfl
  | ok target =>
    simp only [run_insist]
    cases Action.executeAll link.actions session.player <;> rfl

/-- Following a link to a passage of the story is refused and changes nothing, or
the session has moved. -/
theorem run_follow {session : Session} (keyed : session.story.KeyedByTitle) {link : Link}
    {target : Passage} (found : session.story.find? link.reference = some target) :
    (follow link).run.run session =
      match Action.executeAll link.actions session.player with
      | .error violation => (.error (.rejected violation), session)
      | .ok player => (.ok target, session.moved link player) := by
  have leads : session.game.follow link = .ok target := by
    rw [Game.follow, show session.game.story.find? link.reference = some target from found]
  rw [run_follow_eq, leads]
  cases Action.executeAll link.actions session.player with
  | error violation => rfl
  | ok player =>
    have moved : session.arrived target player = session.moved link player := by
      rw [arrived, (Story.mem_of_find? keyed found).2, Session.moved]
    have stands : (session.moved link player).passage = target := passage_of_find? found
    simp only [moved, stands]

/-- A choice leaves the session alone, or it leads to a passage that is visited then. -/
theorem after_choose_cases (session : Session) (key : LinkKey) :
    (session.choose key).2 = session ∨
      ∃ target player, (session.choose key).2 = session.arrived target player := by
  have reads : session.choose key =
      ((session.offered.find? fun link => link.key = key).elim (throw (.notOffered key))
        follow).run.run session :=
    rfl
  rw [reads]
  cases session.offered.find? fun link => link.key = key with
  | none => exact .inl rfl
  | some link =>
    rw [Option.elim_some, run_follow_eq]
    cases session.game.follow link with
    | error missing => exact .inl rfl
    | ok target =>
      simp only
      cases Action.executeAll link.actions session.player with
      | error violation => exact .inl rfl
      | ok player => exact .inr ⟨target, player, rfl⟩

/-! ## Standing -/

theorem standing_start {game : Game} (keyed : game.story.KeyedByTitle) :
    (start game).Standing where
  keyed := keyed
  current := (Story.isSome_find?_iff keyed).mpr List.mem_cons_self
  broken := rfl

/-- What is resumed is what was kept, and its titles name passages. -/
theorem restore_eq_ok_iff {kept : Snapshot} (keyed : kept.game.story.KeyedByTitle)
    {session : Session} :
    restore kept = .ok session ↔
      (∀ title ∈ kept.passage :: kept.visited, title ∈ kept.game.story.titles) ∧
        session =
          { game := kept.game
            current := kept.passage
            visited := if kept.visited.isEmpty then [kept.passage] else kept.visited
            broken := kept.game.story.brokenLinks } := by
  have resolved : (kept.passage :: kept.visited).find? (fun title =>
      !kept.game.story.contains title) = none ↔
        ∀ title ∈ kept.passage :: kept.visited, title ∈ kept.game.story.titles := by
    rw [List.find?_eq_none]
    refine forall_congr' fun title => forall_congr' fun _ => ?_
    rw [Bool.not_eq_true', Bool.not_eq_false, Story.contains_iff keyed]
  rw [restore, ← resolved]
  cases (kept.passage :: kept.visited).find? fun title => !kept.game.story.contains title with
  | some missing => simp
  | none =>
    simp only [true_and, Except.ok.injEq]
    exact eq_comm

theorem standing_restore {kept : Snapshot} (keyed : kept.game.story.KeyedByTitle)
    {session : Session} (restored : restore kept = .ok session) : session.Standing := by
  rcases (restore_eq_ok_iff keyed).mp restored with ⟨named, rfl⟩
  exact ⟨keyed, (Story.isSome_find?_iff keyed).mpr (named kept.passage List.mem_cons_self), rfl⟩

/-- What is read is what the document says, resumed. -/
theorem ofJson_eq_ok_iff {text : String} {session : Session} :
    ofJson text = .ok session ↔
      ∃ kept, Json.decode Document.takeSnapshot text = .ok kept ∧ restore kept = .ok session := by
  rw [ofJson]
  cases Json.decode Document.takeSnapshot text with
  | error problem => simp
  | ok kept => cases restored : restore kept <;> simp [restored]

theorem standing_ofJson {text : String} {session : Session} (decoded : ofJson text = .ok session) :
    session.Standing := by
  rcases ofJson_eq_ok_iff.mp decoded with ⟨kept, said, restored⟩
  exact standing_restore (Document.wellFormed_of_decode said).keyed restored

/-- The story of a session that is read is well-formed. -/
theorem wellFormed_of_ofJson {text : String} {session : Session}
    (decoded : ofJson text = .ok session) : session.story.WellFormed := by
  rcases ofJson_eq_ok_iff.mp decoded with ⟨kept, said, restored⟩
  have wellFormed := Document.wellFormed_of_decode said
  rcases (restore_eq_ok_iff wellFormed.keyed).mp restored with ⟨-, rfl⟩
  exact wellFormed

/-! ## The links that are offered -/

theorem admits_iff {story : Story} {visited : List String} {title : String} {target : Passage}
    (found : story.find? title = some target) :
    story.admits visited title = true ↔
      title = story.opening.title ∨ title ∉ visited ∨ target.singleVisit = false := by
  rw [Story.admits, found, Option.any_some, Bool.or_eq_true, Bool.or_eq_true, decide_eq_true_eq,
    Bool.not_eq_true', Bool.not_eq_true', ← Bool.not_eq_true, List.contains_iff_mem, or_assoc]

/-- The links that are offered are those that may be followed. -/
theorem mem_offered_iff {session : Session} (standing : session.Standing) {passage : Passage}
    (found : session.story.find? session.current = some passage) {link : Link} :
    link ∈ session.offered ↔ link ∈ passage.links ∧ session.MayFollow link := by
  rw [offered, passage_of_find? found, Story.offered, List.mem_filter]
  refine and_congr_right fun onPassage => ?_
  have member := (Story.mem_of_find? standing.keyed found).1
  have broken := Story.key_mem_brokenLinks_iff member onPassage
  rw [Bool.and_eq_true, Bool.not_eq_true', ← Bool.not_eq_true, List.contains_iff_mem,
    standing.broken, broken, Decidable.not_not, ← Story.isSome_find?_iff standing.keyed]
  constructor
  · rintro ⟨resolved, admitted⟩
    rcases Option.isSome_iff_exists.mp resolved with ⟨target, leads⟩
    exact ⟨target, leads, (admits_iff leads).mp admitted⟩
  · rintro ⟨target, leads, free⟩
    exact ⟨Option.isSome_iff_exists.mpr ⟨target, leads⟩, (admits_iff leads).mpr free⟩

/-- A test that gives one answer to all that are looked for may be made before or
after the search. -/
theorem find?_filter_eq_some_iff {α : Type} {wanted test : α → Bool}
    (constant : ∀ x y, wanted x = true → wanted y = true → test x = test y) {xs : List α} {x : α} :
    (xs.filter test).find? wanted = some x ↔ xs.find? wanted = some x ∧ test x = true := by
  induction xs with
  | nil => simp
  | cons y ys ih =>
    by_cases hit : wanted y = true
    · rw [List.find?_cons_of_pos hit, Option.some.injEq]
      by_cases passes : test y = true
      · rw [List.filter_cons_of_pos passes, List.find?_cons_of_pos hit, Option.some.injEq]
        exact ⟨fun same => ⟨same, same ▸ passes⟩, And.left⟩
      · rw [List.filter_cons_of_neg passes, ih]
        constructor
        · rintro ⟨later, passes'⟩
          exact absurd (constant y x hit (List.find?_some later) ▸ passes') passes
        · rintro ⟨rfl, passes'⟩
          exact absurd passes' passes
    · rw [List.find?_cons_of_neg hit, ← ih]
      by_cases passes : test y = true
      · rw [List.filter_cons_of_pos passes, List.find?_cons_of_neg hit]
      · rw [List.filter_cons_of_neg passes]

/-- The link that a choice follows is the passage's link with the key, when that
link may be followed. -/
theorem find?_offered {session : Session} (standing : session.Standing) {passage : Passage}
    (found : session.story.find? session.current = some passage) {key : LinkKey} {link : Link} :
    (session.offered.find? fun link => link.key = key) = some link ↔
      passage.link? key = some link ∧ session.MayFollow link := by
  have offers : link ∈ session.offered ↔ _ := mem_offered_iff standing found
  rw [offered, passage_of_find? found, Story.offered, List.mem_filter] at offers
  rw [offered, passage_of_find? found, Story.offered, find?_filter_eq_some_iff]
  · refine and_congr_right fun onPassage => ?_
    have member := (Passage.mem_of_link? onPassage).1
    rw [and_iff_right member, and_iff_right member] at offers
    exact offers
  · intro a b isKey isKey'
    have same : a.key = b.key := (of_decide_eq_true isKey).trans (of_decide_eq_true isKey').symm
    rw [Link.reference, Link.reference, same]

theorem find?_offered_eq_none_iff {session : Session} (standing : session.Standing)
    {passage : Passage} (found : session.story.find? session.current = some passage)
    {key : LinkKey} :
    (session.offered.find? fun link => link.key = key) = none ↔
      ¬ ∃ link ∈ passage.links, link.key = key ∧ session.MayFollow link := by
  rw [List.find?_eq_none]
  constructor
  · rintro none ⟨link, onPassage, isKey, free⟩
    exact none link ((mem_offered_iff standing found).mpr ⟨onPassage, free⟩) (decide_eq_true isKey)
  · intro none link member isKey
    rcases (mem_offered_iff standing found).mp member with ⟨onPassage, free⟩
    exact none ⟨link, onPassage, of_decide_eq_true isKey, free⟩

/-! ## The answers -/

/-- All that a choice can do to a session that stands. -/
theorem choose_cases {session : Session} (standing : session.Standing) {passage : Passage}
    (found : session.story.find? session.current = some passage) (key : LinkKey) :
    (session.choose key = (.error (.notOffered key), session) ∧
        ¬ ∃ link ∈ passage.links, link.key = key ∧ session.MayFollow link) ∨
      ∃ link target, passage.link? key = some link ∧ session.MayFollow link ∧
        session.story.find? link.reference = some target ∧
          ((∃ violation, session.choose key = (.error (.rejected violation), session) ∧
              Action.executeAll link.actions session.player = .error violation) ∨
            ∃ player, session.choose key = (.ok target, session.moved link player) ∧
              Action.executeAll link.actions session.player = .ok player) := by
  have reads : session.choose key =
      ((session.offered.find? fun link => link.key = key).elim (throw (.notOffered key))
        follow).run.run session :=
    rfl
  cases hit : session.offered.find? fun link => link.key = key with
  | none =>
    rw [hit] at reads
    exact .inl ⟨reads, (find?_offered_eq_none_iff standing found).mp hit⟩
  | some link =>
    rw [hit] at reads
    rcases (find?_offered standing found).mp hit with ⟨onPassage, target, leads, allowed⟩
    refine .inr ⟨link, target, onPassage, ⟨target, leads, allowed⟩, leads, ?_⟩
    have followed := reads.trans (run_follow standing.keyed leads)
    cases executed : Action.executeAll link.actions session.player with
    | error violation =>
      rw [executed] at followed
      exact .inl ⟨violation, followed, rfl⟩
    | ok player =>
      rw [executed] at followed
      exact .inr ⟨player, followed, rfl⟩

/-- The session after a choice is the one before it, or one that has followed a link. -/
theorem after_choose {session : Session} (standing : session.Standing) (key : LinkKey) :
    (session.choose key).2 = session ∨
      ∃ link target player, session.story.find? link.reference = some target ∧
        Action.executeAll link.actions session.player = .ok player ∧
          (session.choose key).2 = session.moved link player := by
  rcases Option.isSome_iff_exists.mp standing.current with ⟨passage, found⟩
  rcases choose_cases standing found key with ⟨refused, _⟩ |
    ⟨link, target, _, _, leads, ⟨violation, refused, _⟩ | ⟨player, chosen, executed⟩⟩
  · exact .inl (congrArg Prod.snd refused)
  · exact .inl (congrArg Prod.snd refused)
  · exact .inr ⟨link, target, player, leads, executed, congrArg Prod.snd chosen⟩

theorem standing_choose {session : Session} (standing : session.Standing) (key : LinkKey) :
    (session.choose key).2.Standing := by
  rcases after_choose standing key with same | ⟨link, target, player, leads, -, same⟩
  · rw [same]
    exact standing
  · rw [same]
    exact ⟨standing.keyed, Option.isSome_iff_exists.mpr ⟨target, leads⟩, standing.broken⟩

theorem standing_of_reachable {session : Session} (reachable : session.Reachable) :
    session.Standing := by
  induction reachable with
  | started game keyed => exact standing_start keyed
  | resumed keyed restored => exact standing_restore keyed restored
  | read decoded => exact standing_ofJson decoded
  | chosen reachable key ih => exact standing_choose ih key

/-- A choice has three answers, and a refusal changes nothing.  The link is not
available when no link with the key may be followed; otherwise the choice is
rejected with the violation at which the link's actions fail; and otherwise the
session moves to the passage that the link leads to. -/
theorem choose_exact {session : Session} (reachable : session.Reachable) (key : LinkKey) :
    ∃ passage, session.story.find? session.current = some passage ∧
      ((session.choose key).1 = .error (.notOffered key) ↔
        ¬ ∃ link ∈ passage.links, link.key = key ∧ session.MayFollow link) ∧
      ((∃ link ∈ passage.links, link.key = key ∧ session.MayFollow link) →
        ∃ link target, passage.link? key = some link ∧
          session.story.find? link.reference = some target ∧
          (∀ violation, (session.choose key).1 = .error (.rejected violation) ↔
            Action.Fails link.actions session.player violation) ∧
          ((∀ violation, ¬ Action.Fails link.actions session.player violation) →
            ∃ player, Action.executeAll link.actions session.player = .ok player ∧
              session.choose key = (.ok target, session.moved link player))) ∧
      (∀ missing, (session.choose key).1 ≠ .error (.missing missing)) ∧
      ∀ error, (session.choose key).1 = .error error → (session.choose key).2 = session := by
  have standing := standing_of_reachable reachable
  rcases Option.isSome_iff_exists.mp standing.current with ⟨passage, found⟩
  refine ⟨passage, found, ?_⟩
  rcases choose_cases standing found key with ⟨refused, none⟩ |
    ⟨link, target, onPassage, free, leads, outcome⟩
  · rw [refused]
    refine ⟨iff_of_true rfl none, ?_, nofun, fun _ _ => rfl⟩
    intro some
    exact absurd some none
  · rcases Passage.mem_of_link? onPassage with ⟨member, isKey⟩
    have some : ∃ link ∈ passage.links, link.key = key ∧ session.MayFollow link :=
      ⟨link, member, isKey, free⟩
    simp only [← Action.executeAll_eq_error_iff]
    rcases outcome with ⟨violation, refused, failed⟩ | ⟨player, chosen, executed⟩
    · rw [refused]
      refine ⟨iff_of_false nofun (not_not_intro some), ?_, nofun, fun _ _ => rfl⟩
      intro _
      refine ⟨link, target, onPassage, leads, ?_, ?_⟩
      · intro other
        rw [failed, Except.error.injEq, Except.error.injEq, ChoiceError.rejected.injEq]
      · intro fine
        exact absurd failed (fine violation)
    · rw [chosen]
      refine ⟨iff_of_false nofun (not_not_intro some), ?_, nofun, nofun⟩
      intro _
      refine ⟨link, target, onPassage, leads, ?_, ?_⟩
      · intro other
        rw [executed]
        exact iff_of_false nofun nofun
      · intro _
        exact ⟨player, executed, rfl⟩

/-- A game with a link that cannot be paid for, a passage for a single visit, and
a link that leads nowhere. -/
def ferry : Game where
  player := ⟨"Ada", 20, 0, 7, ["rope"]⟩
  story :=
    { title := "The ferry"
      opening :=
        { title := "Quay"
          content := "A boat is waiting."
          mood := .calm
          singleVisit := false
          links :=
            [⟨⟨"Pay", "Boat"⟩, [.change .gold (-5), .take "ticket"]⟩,
              ⟨⟨"Jump", "Deep"⟩, [.change .health 5, .change .gold (-100)]⟩,
              ⟨⟨"Fly", "Sky"⟩, []⟩] }
      filed := Story.filing
        [⟨"Boat", "It leaves.", .none, true, [⟨⟨"Return", "Quay"⟩, []⟩]⟩,
          ⟨"Deep", "It is cold.", .dark, false, []⟩] }
  goals := [.reach .gold 2, .carry ["rope", "ticket"]]

theorem choose_exact_jump :
    (start ferry).Reachable ∧
      ((start ferry).choose ⟨"Jump", "Deep"⟩).1 =
        .error (.rejected (.outOfRange "gold" (-93) Limits.gold)) ∧
      ((start ferry).choose ⟨"Jump", "Deep"⟩).2 = start ferry := by
  have reachable : (start ferry).Reachable := .started ferry (Story.keyedByTitle_filing _ _ _)
  rcases choose_exact reachable ⟨"Jump", "Deep"⟩ with ⟨_, _, _, _, _, atomic⟩
  have refused : ((start ferry).choose ⟨"Jump", "Deep"⟩).1 =
      .error (.rejected (.outOfRange "gold" (-93) Limits.gold)) := by rfl
  exact ⟨reachable, refused, atomic _ refused⟩

end Session
end Gamebook
