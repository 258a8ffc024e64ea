import Mathlib.Data.List.Chain
import Gamebook.Proofs.Document.RoundTrip
import Gamebook.Proofs.Session.Choice

namespace Gamebook

/-!
# A whole session

A session is played by choices.  At any point it may be written and read back,
or put away and resumed.  One invariant is kept by every choice: it says where
the visits have led, and that nothing but the player has changed.  It also says
enough for a session to be read back as it was, so that the steps which are no
choices leave no trace in what follows.
-/

/-- A step of a session. -/
inductive Move
  | choose (key : LinkKey)
  | reload
  | resume
  deriving DecidableEq, Repr

/-- The choice that a step is, if it is one. -/
def Move.key? : Move → Option LinkKey
  | .choose key => some key
  | .reload | .resume => none

/-- What a choice shows: the answer, and then the links that are offered and the
goals with whether they are met. -/
structure Sight where
  answer : Except ChoiceError Passage
  offered : List Link
  goals : List (Goal × Bool)

namespace Story

/-- Says that a link leads from the passage with one title to another title. -/
def Leads (story : Story) (before next : String) : Prop :=
  ∃ passage link, story.find? before = some passage ∧ link ∈ passage.links ∧ link.reference = next

end Story

namespace Session

/-- Make a choice and look at what has come of it. -/
def look (session : Session) (key : LinkKey) : Sight × Session :=
  let (answer, next) := session.choose key
  (⟨answer, next.offered, next.goalReport⟩, next)

/-- Take one step.  What is read back or resumed replaces the session. -/
def step (session : Session) : Move → Except DecodeFault (List Sight × Session)
  | .choose key => .ok ([(session.look key).1], (session.look key).2)
  | .reload => (ofJson session.toJson).map ([], ·)
  | .resume => ((restore session.snapshot).mapError .missing).map ([], ·)

/-- Take steps in order, as long as none of them fails. -/
def run : Session → List Move → Except DecodeFault (List Sight × Session)
  | session, [] => .ok ([], session)
  | session, move :: moves => do
    let (sights, next) ← session.step move
    let (more, final) ← next.run moves
    .ok (sights ++ more, final)

/-- Make choices in order, whatever the answers are. -/
def play : Session → List LinkKey → List Sight × Session
  | session, [] => ([], session)
  | session, key :: keys =>
    let (sight, next) := session.look key
    let (sights, final) := next.play keys
    (sight :: sights, final)

/-- What holds of every session that is played from a game.  The visits begin
with the opening, each goes along a link of the passage before, and the last is
where the session stands. -/
structure PlayedFrom (game : Game) (session : Session) : Prop where
  story : session.story = game.story
  goals : session.game.goals = game.goals
  broken : session.broken = game.story.brokenLinks
  player : session.player.Valid
  name : session.player.name = game.player.name
  current : (game.story.find? session.current).isSome = true
  resolved : ∀ title ∈ session.visited, (game.story.find? title).isSome = true
  first : session.visited.head? = some game.story.opening.title
  last : session.visited.getLast? = some session.current
  linked : session.visited.IsChain game.story.Leads
  once : ∀ passage ∈ game.story.passages, passage.singleVisit = true →
    passage.title ≠ game.story.opening.title → session.visited.count passage.title ≤ 1

/-! ## The invariant is kept -/

theorem playedFrom_start {game : Game} (keyed : game.story.KeyedByTitle)
    (valid : game.player.Valid) : (start game).PlayedFrom game where
  story := rfl
  goals := rfl
  broken := rfl
  player := valid
  name := rfl
  current := (Story.isSome_find?_iff keyed).mpr List.mem_cons_self
  resolved title member := by
    rw [List.mem_singleton.mp member]
    exact (Story.isSome_find?_iff keyed).mpr List.mem_cons_self
  first := rfl
  last := rfl
  linked := .singleton _
  once passage _ _ apart := by
    rw [start, List.count_singleton]
    split <;> decide

theorem PlayedFrom.standing {game : Game} (keyed : game.story.KeyedByTitle) {session : Session}
    (played : session.PlayedFrom game) : session.Standing where
  keyed := played.story ▸ keyed
  current := played.story ▸ played.current
  broken := played.story ▸ played.broken

/-- A visit that may be made keeps every single visit single. -/
theorem count_visited_le_one {game : Game} (wellFormed : game.story.WellFormed)
    {session : Session} (played : session.PlayedFrom game) {link : Link}
    (free : session.MayFollow link) {passage : Passage} (member : passage ∈ game.story.passages)
    (single : passage.singleVisit = true) (apart : passage.title ≠ game.story.opening.title) :
    (session.visited ++ [link.reference]).count passage.title ≤ 1 := by
  have before := played.once passage member single apart
  rw [List.count_append, List.count_singleton]
  by_cases same : link.reference = passage.title
  · rcases free with ⟨target, leads, allowed⟩
    rw [played.story] at leads allowed
    rw [same, Story.find?_of_mem wellFormed member] at leads
    cases leads
    rw [same, single] at allowed
    have unvisited : passage.title ∉ session.visited := by
      rcases allowed with opening | unvisited | repeatable
      · exact absurd opening apart
      · exact unvisited
      · exact absurd repeatable (by decide)
    rw [List.count_eq_zero_of_not_mem unvisited, Nat.zero_add]
    split <;> decide
  · rw [if_neg (by rw [beq_iff_eq]; exact same)]
    exact before

/-- Moving along a link that may be followed keeps the invariant. -/
theorem playedFrom_moved {game : Game} (wellFormed : game.story.WellFormed) {session : Session}
    (played : session.PlayedFrom game) {passage target : Passage} {link : Link} {player : Player}
    (stands : session.story.find? session.current = some passage) (onPassage : link ∈ passage.links)
    (free : session.MayFollow link)
    (leads : session.story.find? link.reference = some target)
    (executed : Action.executeAll link.actions session.player = .ok player) :
    (session.moved link player).PlayedFrom game := by
  rcases Action.valid_of_executeAll played.player executed with ⟨valid, sameName⟩
  rw [played.story] at stands leads
  have resolved : (game.story.find? link.reference).isSome = true :=
    Option.isSome_iff_exists.mpr ⟨target, leads⟩
  exact
    { story := played.story
      goals := played.goals
      broken := played.broken
      player := valid
      name := sameName.trans played.name
      current := resolved
      resolved := by
        intro title member
        rcases List.mem_append.mp member with before | new
        · exact played.resolved title before
        · exact List.mem_singleton.mp new ▸ resolved
      first := by
        rw [moved, List.head?_append, played.first]
        rfl
      last := List.getLast?_concat
      linked := by
        refine List.isChain_append.mpr ⟨played.linked, .singleton _, ?_⟩
        intro before final next new
        rw [played.last] at final
        cases final
        cases new
        exact ⟨passage, link, stands, onPassage, rfl⟩
      once := fun other member single apart =>
        count_visited_le_one wellFormed played free member single apart }

/-- A choice keeps the invariant, whatever its answer. -/
theorem playedFrom_look {game : Game} (wellFormed : game.story.WellFormed) {session : Session}
    (played : session.PlayedFrom game) (key : LinkKey) : (session.look key).2.PlayedFrom game := by
  have standing := played.standing wellFormed.keyed
  rcases Option.isSome_iff_exists.mp standing.current with ⟨passage, stands⟩
  rcases choose_cases standing stands key with ⟨refused, _⟩ |
    ⟨link, target, found, free, leads, ⟨violation, refused, _⟩ | ⟨player, chosen, executed⟩⟩
  · rw [look, refused]
    exact played
  · rw [look, refused]
    exact played
  · rw [look, chosen]
    exact playedFrom_moved wellFormed played stands (Passage.mem_of_link? found).1 free leads
      executed

theorem playedFrom_play {game : Game} (wellFormed : game.story.WellFormed) {session : Session}
    (played : session.PlayedFrom game) (keys : List LinkKey) :
    (session.play keys).2.PlayedFrom game := by
  induction keys generalizing session with
  | nil => exact played
  | cons key keys ih => exact ih (playedFrom_look wellFormed played key)

/-! ## Sessions are taken up as they were left -/

/-- What a session needs to be resumed as it is: it has visits, and all of them name
passages. -/
structure Resumable (session : Session) : Prop where
  standing : session.Standing
  begun : session.visited ≠ []
  named : ∀ title ∈ session.visited, title ∈ session.story.titles

theorem Resumable.moved {session : Session} (resumable : session.Resumable) {link : Link}
    {target : Passage} (leads : session.story.find? link.reference = some target)
    (player : Player) : (session.moved link player).Resumable := by
  have named : (session.story.find? link.reference).isSome = true :=
    Option.isSome_iff_exists.mpr ⟨target, leads⟩
  have standing : (session.moved link player).Standing :=
    ⟨resumable.standing.keyed, named, resumable.standing.broken⟩
  refine ⟨standing, List.append_ne_nil_of_right_ne_nil _ nofun, ?_⟩
  intro title visited
  rcases List.mem_append.mp visited with before | new
  · exact resumable.named title before
  · rw [List.mem_singleton.mp new]
    exact (Story.isSome_find?_iff resumable.standing.keyed).mp named

theorem resumable_start {game : Game} (keyed : game.story.KeyedByTitle) :
    (start game).Resumable where
  standing := standing_start keyed
  begun := List.cons_ne_nil _ _
  named title visited := by
    rw [List.mem_singleton.mp visited]
    exact List.mem_cons_self

theorem resumable_restore {kept : Snapshot} (keyed : kept.game.story.KeyedByTitle)
    {session : Session} (restored : restore kept = .ok session) : session.Resumable := by
  have standing := standing_restore keyed restored
  rcases (restore_eq_ok_iff keyed).mp restored with ⟨named, rfl⟩
  refine ⟨standing, ?_, ?_⟩
  · cases visited : kept.visited <;> simp
  · intro title visited
    apply named
    -- Without visits the position is the first, and it was asked to name a passage as well.
    cases none : kept.visited with
    | nil =>
      simp only [none, List.isEmpty_nil, if_true] at visited
      exact visited
    | cons first rest =>
      simp only [none, List.isEmpty_cons, Bool.false_eq_true, if_false] at visited
      exact List.mem_cons_of_mem _ visited

theorem resumable_choose {session : Session} (resumable : session.Resumable) (key : LinkKey) :
    (session.choose key).2.Resumable := by
  rcases after_choose resumable.standing key with same | ⟨link, target, player, leads, -, same⟩
  · rw [same]
    exact resumable
  · rw [same]
    exact resumable.moved leads player

theorem resumable_of_reachable {session : Session} (reachable : session.Reachable) :
    session.Resumable := by
  induction reachable with
  | started game keyed => exact resumable_start keyed
  | resumed keyed restored => exact resumable_restore keyed restored
  | read decoded =>
    rcases ofJson_eq_ok_iff.mp decoded with ⟨kept, said, restored⟩
    exact resumable_restore (Document.wellFormed_of_decode said).keyed restored
  | chosen reachable key ih => exact resumable_choose ih key

/-- Resuming from what is kept of a session gives the session back. -/
theorem restore_snapshot {session : Session} (resumable : session.Resumable) :
    restore session.snapshot = .ok session := by
  have keyed := resumable.standing.keyed
  refine (restore_eq_ok_iff keyed).mpr ⟨fun title member => ?_, ?_⟩
  · rcases List.mem_cons.mp member with rfl | visited
    · exact (Story.isSome_find?_iff keyed).mp resumable.standing.current
    · exact resumable.named title visited
  · have visits : session.visited.isEmpty = false := List.isEmpty_eq_false_iff.mpr resumable.begun
    have broken : session.broken = session.game.story.brokenLinks := resumable.standing.broken
    simp only [snapshot, visits, ← broken]
    rfl

theorem PlayedFrom.resumable {game : Game} (keyed : game.story.KeyedByTitle) {session : Session}
    (played : session.PlayedFrom game) : session.Resumable where
  standing := played.standing keyed
  begun := by
    intro none
    have first := played.first
    rw [none] at first
    cases first
  named title visited := by
    rw [played.story]
    exact (Story.isSome_find?_iff keyed).mp (played.resolved title visited)

/-- A game stays well-formed while it is played. -/
theorem wellFormed_of_playedFrom {game : Game} (wellFormed : game.WellFormed) {session : Session}
    (played : session.PlayedFrom game) : session.game.WellFormed where
  player := played.player
  story := by
    rw [show session.game.story = game.story from played.story]
    exact wellFormed.story
  goals := played.goals ▸ wellFormed.goals

/-- The text of a session can be read when the goals of its game follow their rules, and
then it is the session. -/
theorem ofJson_toJson_eq_ok_iff {session again : Session} (resumable : session.Resumable)
    (formed : session.game.Formed) :
    ofJson session.toJson = .ok again ↔
      (∀ goal ∈ session.game.goals, goal.Valid) ∧ again = session := by
  rw [ofJson_eq_ok_iff]
  constructor
  · rintro ⟨kept, decoded, restored⟩
    have valid := valid_of_decode_toJson formed decoded
    have same := decode_toJson ⟨formed.player, formed.story, valid⟩
    cases decoded.symm.trans same
    cases restored.symm.trans (restore_snapshot resumable)
    exact ⟨valid, rfl⟩
  · rintro ⟨valid, rfl⟩
    exact ⟨_, decode_toJson ⟨formed.player, formed.story, valid⟩, restore_snapshot resumable⟩

/-- A session is read back from its text. -/
theorem ofJson_toJson {game : Game} (wellFormed : game.WellFormed) {session : Session}
    (played : session.PlayedFrom game) : ofJson session.toJson = .ok session := by
  have kept := wellFormed_of_playedFrom wellFormed played
  exact (ofJson_toJson_eq_ok_iff (played.resumable wellFormed.story.keyed) kept.formed).mpr
    ⟨kept.goals, rfl⟩

/-- A step that is no choice changes nothing. -/
theorem step_eq {game : Game} (wellFormed : game.WellFormed) {session : Session}
    (played : session.PlayedFrom game) (move : Move) :
    session.step move = .ok (session.play move.key?.toList) := by
  cases move with
  | choose key => rfl
  | reload =>
    rw [step, ofJson_toJson wellFormed played]
    rfl
  | resume =>
    rw [step, restore_snapshot (played.resumable wellFormed.story.keyed)]
    rfl

/-- A run is what its choices alone make of it. -/
theorem run_eq_ok_play {game : Game} (wellFormed : game.WellFormed) {session : Session}
    (played : session.PlayedFrom game) (moves : List Move) :
    session.run moves = .ok (session.play (moves.filterMap Move.key?)) := by
  induction moves generalizing session with
  | nil => rfl
  | cons move moves ih =>
    have next := playedFrom_play wellFormed.story played move.key?.toList
    rw [run, step_eq wellFormed played move, ok_bind]
    simp only [ih next, ok_bind]
    cases move <;> rfl

/-! ## What holds of every run -/

/-- Whatever is chosen, and however often the session is read back in between,
the visits follow the links of the story, the story and the goals are those of
the game, and the player stays within all limits. -/
theorem run_playedFrom (game : Game) (wellFormed : game.WellFormed) (moves : List Move) :
    ∃ sights session, (start game).run moves = .ok (sights, session) ∧
      session.PlayedFrom game ∧ session.player.health ≤ 1000 ∧ session.player.score ≤ 100000 ∧
        session.player.gold ≤ 100000 ∧ session.player.inventory.length ≤ 20 := by
  have begun := playedFrom_start wellFormed.story.keyed wellFormed.player
  have played := playedFrom_play wellFormed.story begun (moves.filterMap Move.key?)
  have most (counter : Counter) := (Bool.and_eq_true_iff.mp (played.player.counters counter)).2
  exact ⟨_, _, run_eq_ok_play wellFormed begun moves, played, of_decide_eq_true (most .health),
    of_decide_eq_true (most .score), of_decide_eq_true (most .gold), played.player.room⟩

/-- Steps that try to go aboard twice. -/
def crossing : List Move :=
  [.choose ⟨"Jump", "Deep"⟩, .choose ⟨"Pay", "Boat"⟩, .reload, .choose ⟨"Return", "Quay"⟩,
    .resume, .choose ⟨"Pay", "Boat"⟩]

theorem wellFormed_ferry : ferry.WellFormed where
  player := by decide
  story := by decide
  goals := by
    intro goal member
    rw [Goal.valid_iff_ofTag]
    rcases List.mem_cons.mp member with rfl | member
    · exact ⟨"minimumGold", .number 2, rfl⟩
    · rw [List.mem_singleton.mp member]
      exact ⟨"mandatoryItems", .items ["ticket", "rope"], rfl⟩

theorem run_playedFrom_ferry :
    ferry.WellFormed ∧
      ∃ sights session, (start ferry).run crossing = .ok (sights, session) ∧
        session.PlayedFrom ferry ∧ session.player.health ≤ 1000 ∧
          session.player.score ≤ 100000 ∧ session.player.gold ≤ 100000 ∧
            session.player.inventory.length ≤ 20 :=
  ⟨wellFormed_ferry, run_playedFrom ferry wellFormed_ferry crossing⟩

/-- Says that sessions agree in all that play depends on, with stories that agree
in every field. -/
structure Interchangeable (a b : Session) : Prop where
  current : a.current = b.current
  visited : a.visited = b.visited
  broken : a.broken = b.broken
  player : a.player = b.player
  goals : a.game.goals = b.game.goals
  story : a.story.identical b.story = true

theorem interchangeable_self {session : Session} (wellFormed : session.story.WellFormed) :
    session.Interchangeable session :=
  ⟨rfl, rfl, rfl, rfl, rfl, Story.identical_self wellFormed⟩

/-- Saving a session and taking it up again cannot be noticed.  A run shows what
its choices alone would have shown and ends in the same session; and wherever it
ends, the session can be read back from its text and resumed from what is kept
of it, as a session that agrees with it in everything. -/
theorem run_eq_play (game : Game) (story : game.story.WellFormed) (player : game.player.Valid)
    (goals : ∀ goal ∈ game.goals, ∃ tag payload, Goal.ofTag tag payload = .ok goal)
    (moves : List Move) :
    ∃ sights session, (start game).run moves = .ok (sights, session) ∧
      (start game).play (moves.filterMap Move.key?) = (sights, session) ∧
      (∃ again, ofJson session.toJson = .ok again ∧ again.Interchangeable session) ∧
      ∃ again, restore session.snapshot = .ok again ∧ again.Interchangeable session := by
  have wellFormed : game.WellFormed :=
    ⟨player, story, fun goal member => Goal.valid_iff_ofTag.mpr (goals goal member)⟩
  have begun := playedFrom_start story.keyed player
  have played := playedFrom_play story begun (moves.filterMap Move.key?)
  have same := interchangeable_self (wellFormed_of_playedFrom wellFormed played).story
  exact ⟨_, _, run_eq_ok_play wellFormed begun moves, rfl,
    ⟨_, ofJson_toJson wellFormed played, same⟩,
    ⟨_, restore_snapshot (played.resumable wellFormed.story.keyed), same⟩⟩

theorem run_eq_play_ferry :
    ferry.WellFormed ∧
      ∃ sights session, (start ferry).run crossing = .ok (sights, session) ∧
        (start ferry).play (crossing.filterMap Move.key?) = (sights, session) ∧
        (∃ again, ofJson session.toJson = .ok again ∧ again.Interchangeable session) ∧
        ∃ again, restore session.snapshot = .ok again ∧ again.Interchangeable session :=
  ⟨wellFormed_ferry,
    run_eq_play ferry wellFormed_ferry.story wellFormed_ferry.player
      (fun goal member => Goal.valid_iff_ofTag.mp (wellFormed_ferry.goals goal member)) crossing⟩

end Session
end Gamebook
