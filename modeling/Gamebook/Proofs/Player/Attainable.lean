import Mathlib.Data.List.Perm.Subperm
import Gamebook.Proofs.Document.Members
import Gamebook.Proofs.Session.Run
import Gamebook.Proofs.Settings.Loaded

namespace Gamebook

/-!
# Which goals can be met

A goal is accepted when each of its parts follows a rule: a minimum lies in the range of
its counter, and an item has a name that a player may carry.  The rule for a minimum is
also the rule for the player, so every minimum can be met.  The rule for items is asked of
one name after the other, and the room in the bag is not asked for at all.  Of different
items a goal may therefore ask for more than any bag can hold.

Which goals can be met is settled by that number alone.
-/

namespace Goal

/-- Says that a goal is accepted: it is made from a tag and a payload, taken out of a
document, or taken out of a settings file. -/
inductive Accepted (goal : Goal) : Prop
  | made {tag : String} {payload : Payload} (read : ofTag tag payload = .ok goal)
  | decoded {reading : Json.Reading} (taken : Document.takeGoal reading = .ok goal)
  | configured {item : Toml.Item} (taken : Settings.goal? item = some goal)

/-- Says that a goal can be met: somebody who is given a name, counters and items, none of
which is refused, meets it. -/
def Attainable (goal : Goal) : Prop :=
  ∃ (name : String) (health score gold : Nat) (items : List String) (bare player : Player),
    Player.create name health score gold = .ok bare ∧ bare.takeAll items = .ok player ∧
      goal.isFulfilled player = true

/-- The different items that a goal asks for. -/
def required : Goal → List String
  | .reach _ _ => []
  | .carry items => items

/-! ## What is accepted -/

theorem valid_of_takeGoal {reading : Json.Reading} {goal : Goal}
    (taken : Document.takeGoal reading = .ok goal) : goal.Valid := by
  rcases bind_eq_ok_iff.mp taken with ⟨entry, -, meant⟩
  cases read : ofEntry entry with
  | ok found =>
    rw [read] at meant
    cases meant
    exact valid_of_ofEntry read
  | error error =>
    rw [read] at meant
    cases meant

/-- However a goal comes about, its parts are asked the same. -/
theorem accepted_iff_valid {goal : Goal} : goal.Accepted ↔ goal.Valid := by
  constructor
  · intro accepted
    cases accepted with
    | made read => exact valid_iff_ofTag.mpr ⟨_, _, read⟩
    | decoded taken => exact valid_of_takeGoal taken
    | configured taken => exact Settings.valid_of_goal? taken
  · intro valid
    rcases valid_iff_ofTag.mp valid with ⟨tag, payload, read⟩
    exact .made read

/-- Any list of names that may be carried makes a goal. -/
theorem valid_carrying {names : List String} (accepted : ∀ name ∈ names, Rule.item name = .ok ()) :
    (carrying names).Valid := by
  refine ⟨fun item required => ?_, ascendingBy_ascending id names⟩
  exact accepted item (mem_ascending.mp required)

/-! ## What can be met -/

/-- The players that can be made are those that follow the rules. -/
theorem attainable_iff_exists_valid {goal : Goal} :
    goal.Attainable ↔ ∃ player : Player, player.Valid ∧ goal.isFulfilled player = true := by
  constructor
  · rintro ⟨name, health, score, gold, items, bare, player, created, taken, fulfilled⟩
    exact ⟨player, Player.valid_of_takeAll (Player.valid_of_create created) taken, fulfilled⟩
  · rintro ⟨player, valid, fulfilled⟩
    rcases bind_eq_ok_iff.mp (Document.create_of_valid valid) with ⟨bare, created, taken⟩
    exact ⟨_, _, _, _, player.inventory, bare, player, created, taken, fulfilled⟩

/-- Somebody with nothing at all. -/
def pauper : Player := ⟨"Ada", 0, 0, 0, []⟩

theorem valid_pauper : pauper.Valid := by decide

/-- A minimum is met by somebody who has just as much. -/
theorem attainable_reach {counter : Counter} {minimum : Nat}
    (inside : counter.bounds.admits minimum = true) : (reach counter minimum).Attainable := by
  rw [attainable_iff_exists_valid]
  refine ⟨pauper.withCount counter minimum, valid_pauper.withCount inside, ?_⟩
  rw [isFulfilled, Player.count_withCount, if_pos rfl]
  exact decide_eq_true (Nat.le_refl minimum)

/-- Different items that are all carried fill as many places in the bag. -/
theorem length_le_of_isFulfilled {items : List String} (ordered : Ascending id items)
    {player : Player} (fulfilled : (carry items).isFulfilled player = true) :
    items.length ≤ player.inventory.length := by
  have distinct : items.Nodup := by
    have keys := ordered.nodup_map
    rwa [List.map_id] at keys
  have carried : items ⊆ player.inventory := isFulfilled_carry_iff.mp fulfilled
  exact (List.subperm_of_subset distinct carried).length_le

/-- Items are carried by somebody who has just these, as long as the bag holds them. -/
theorem attainable_carry_iff {items : List String} (valid : (carry items).Valid) :
    (carry items).Attainable ↔ items.length ≤ Limits.inventory := by
  rw [attainable_iff_exists_valid]
  constructor
  · rintro ⟨player, isPlayer, fulfilled⟩
    exact Nat.le_trans (length_le_of_isFulfilled valid.2 fulfilled) isPlayer.room
  · intro room
    refine ⟨{ pauper with inventory := items }, ?_, ?_⟩
    · exact ⟨valid_pauper.name, valid_pauper.counters, valid.1, room⟩
    · exact isFulfilled_carry_iff.mpr fun item required => required

theorem attainable_iff_of_valid {goal : Goal} (valid : goal.Valid) :
    goal.Attainable ↔ goal.required.length ≤ Limits.inventory := by
  cases goal with
  | reach counter minimum => exact iff_of_true (attainable_reach valid) (Nat.zero_le _)
  | carry items => exact attainable_carry_iff valid

/-- Names that are written more than once count once. -/
theorem attainable_carrying_iff {names : List String}
    (accepted : ∀ name ∈ names, Rule.item name = .ok ()) :
    (carrying names).Attainable ↔ names.dedup.length ≤ Limits.inventory := by
  have different : (carrying names).required.length = names.dedup.length := by
    rw [← List.map_id names, ← length_ascendingBy, List.map_id]
    rfl
  rw [attainable_iff_of_valid (valid_carrying accepted), different]

/-! ## Games that cannot be won -/

/-- In a run of a game nobody meets a goal that cannot be met. -/
theorem attainable_of_run {game : Game} (wellFormed : game.WellFormed) {goal : Goal}
    (isGoal : goal ∈ game.goals) {moves : List Move} {sights : List Sight}
    {final : Session} (ran : (Session.start game).run moves = .ok (sights, final))
    (won : final.goalsFulfilled = true) : goal.Attainable := by
  have played : final.PlayedFrom game := by
    have begun := Session.playedFrom_start wellFormed.story.keyed wellFormed.player
    have ended := Except.ok.inj ((Session.run_eq_ok_play wellFormed begun moves).symm.trans ran)
    have atEnd : ((Session.start game).play (moves.filterMap Move.key?)).2 = final :=
      congrArg Prod.snd ended
    rw [← atEnd]
    exact Session.playedFrom_play wellFormed.story begun (moves.filterMap Move.key?)
  have reported : (goal, goal.isFulfilled final.player) ∈ final.goalReport :=
    List.mem_map.mpr ⟨goal, played.goals ▸ isGoal, rfl⟩
  have fulfilled : goal.isFulfilled final.player = true := List.all_eq_true.mp won _ reported
  exact attainable_iff_exists_valid.mpr ⟨final.player, played.player, fulfilled⟩

/-- A goal that is accepted can be met when it asks for no more different items than the
bag holds.  When it asks for more, no run of any game with this goal ends with all goals
met. -/
theorem attainable_iff {goal : Goal} (accepted : goal.Accepted) :
    (goal.Attainable ↔ goal.required.length ≤ 20) ∧
      (20 < goal.required.length →
        ∀ (game : Game) (moves : List Move) (sights : List Sight) (final : Session),
          game.WellFormed → goal ∈ game.goals →
            (Session.start game).run moves = .ok (sights, final) →
              final.goalsFulfilled = false) := by
  have attainable : goal.Attainable ↔ goal.required.length ≤ 20 :=
    attainable_iff_of_valid (accepted_iff_valid.mp accepted)
  refine ⟨attainable, ?_⟩
  intro tooMany game moves sights final wellFormed isGoal ran
  rw [← Bool.not_eq_true]
  intro won
  have few := attainable.mp (attainable_of_run wellFormed isGoal ran won)
  exact absurd few (Nat.not_le.mpr tooMany)

/-- Names that are repeated are asked for once, and they can be carried. -/
theorem attainable_iff_rope :
    (carry ["rope", "ticket"]).Accepted ∧ (carry ["rope", "ticket"]).Attainable := by
  have read : ofTag "mandatoryItems" (.items ["ticket", "rope", "ticket"]) =
      .ok (carry ["rope", "ticket"]) := by rfl
  exact ⟨.made read, (attainable_iff (.made read)).1.mpr (by decide)⟩

/-- One relic more than a bag holds. -/
def relics : List String :=
  ["altar", "bell", "candle", "dagger", "ember", "feather", "goblet", "harp", "idol", "jewel",
    "key", "lamp", "mask", "needle", "orb", "pearl", "quill", "ring", "shield", "torch", "urn"]

/-- The goal of carrying all relics is accepted, and nobody can meet it. -/
theorem exists_unattainable :
    ofTag "mandatoryItems" (.items relics) = .ok (carry relics) ∧
      (carry relics).Accepted ∧ ¬ (carry relics).Attainable := by
  have read : ofTag "mandatoryItems" (.items relics) = .ok (carry relics) := by rfl
  have accepted : (carry relics).Accepted := .made read
  refine ⟨read, accepted, ?_⟩
  rw [attainable_carry_iff (accepted_iff_valid.mp accepted)]
  decide

end Goal
end Gamebook
