import Gamebook.Proofs.Player.Sums
import Gamebook.Proofs.Session.Run

namespace Gamebook

/-!
# Items stay where they are

Nothing takes an item away.  A choice puts items at the end of the bag or changes
nothing, and a session that is read back or resumed is the session that it was.  So the
bag before a run is a beginning of the bag after it, and what the bag was enough for it
stays enough for.

Goals are asked for here whether or not they follow their rules.  A session with a goal
that breaks its rule can be played, but its text cannot be read, and a run that tries to
read it comes to an end.
-/

namespace Session

/-- Says that one session has the goals of another, and its items in their places. -/
structure KeepsItems (before after : Session) : Prop where
  goals : after.game.goals = before.game.goals
  items : before.player.inventory <+: after.player.inventory

theorem keepsItems_self (session : Session) : session.KeepsItems session :=
  ⟨rfl, List.prefix_refl _⟩

theorem KeepsItems.trans {before between after : Session} (first : before.KeepsItems between)
    (second : between.KeepsItems after) : before.KeepsItems after :=
  ⟨second.goals.trans first.goals, first.items.trans second.items⟩

/-! ## Goals about items -/

/-- The report has the goals in their order, each with whether it is met. -/
theorem goalReport_getElem?_eq_some_iff {session : Session} {number : Nat} {goal : Goal}
    {met : Bool} :
    session.goalReport[number]? = some (goal, met) ↔
      session.game.goals[number]? = some goal ∧ goal.isFulfilled session.player = met := by
  rw [goalReport, List.getElem?_map, Option.map_eq_some_iff]
  constructor
  · rintro ⟨other, listed, same⟩
    cases same
    exact ⟨listed, rfl⟩
  · rintro ⟨listed, rfl⟩
    exact ⟨goal, listed, rfl⟩

/-- Items that were carried are carried as long as they are kept. -/
theorem KeepsItems.carried {before after : Session} (keeps : before.KeepsItems after)
    {number : Nat} {items : List String}
    (carried : before.goalReport[number]? = some (.carry items, true)) :
    after.goalReport[number]? = some (.carry items, true) := by
  rw [goalReport_getElem?_eq_some_iff, Goal.isFulfilled_carry_iff] at carried ⊢
  rw [keeps.goals]
  refine ⟨carried.1, fun item required => ?_⟩
  exact keeps.items.subset (carried.2 item required)

/-! ## One step -/

variable {session : Session}

theorem keepsItems_choose (standing : session.Standing) (key : LinkKey) :
    session.KeepsItems (session.choose key).2 := by
  rcases after_choose standing key with same | ⟨link, target, player, -, executed, same⟩
  · rw [same]
    exact session.keepsItems_self
  · rw [same]
    refine ⟨rfl, ?_⟩
    have taken : player.inventory = session.player.inventory ++ Action.items link.actions :=
      (Action.adds_of_executeAll executed).inventory
    exact ⟨Action.items link.actions, taken.symm⟩

theorem formed_choose (standing : session.Standing) (formed : session.game.Formed)
    (key : LinkKey) : (session.choose key).2.game.Formed := by
  rcases after_choose standing key with same | ⟨link, target, player, -, executed, same⟩
  · rw [same]
    exact formed
  · rw [same]
    exact ⟨(Action.valid_of_executeAll formed.player executed).1, formed.story, formed.goals⟩

/-- A step keeps the items and all that the next step asks for, and what it shows of the
goals is how they stand after it. -/
theorem keepsItems_of_step (resumable : session.Resumable) (formed : session.game.Formed)
    {move : Move} {sights : List Sight} {next : Session}
    (stepped : session.step move = .ok (sights, next)) :
    session.KeepsItems next ∧ next.Resumable ∧ next.game.Formed ∧
      ∀ sight ∈ sights, sight.goals = next.goalReport := by
  cases move with
  | choose key =>
    cases stepped
    refine ⟨keepsItems_choose resumable.standing key, resumable_choose resumable key,
      formed_choose resumable.standing formed key, ?_⟩
    exact List.forall_mem_singleton.mpr rfl
  | reload =>
    rw [step] at stepped
    cases read : ofJson session.toJson with
    | ok again =>
      rcases (ofJson_toJson_eq_ok_iff resumable formed).mp read with ⟨-, rfl⟩
      rw [read] at stepped
      cases stepped
      exact ⟨keepsItems_self _, resumable, formed, List.forall_mem_nil _⟩
    | error fault =>
      rw [read] at stepped
      cases stepped
  | resume =>
    rw [step, restore_snapshot resumable] at stepped
    cases stepped
    exact ⟨session.keepsItems_self, resumable, formed, List.forall_mem_nil _⟩

/-- Only reading the text of a session can fail, and only for the session's goals. -/
theorem exists_step_iff (resumable : session.Resumable) (formed : session.game.Formed)
    (move : Move) :
    (∃ sights next, session.step move = .ok (sights, next)) ↔
      (move = .reload → ∀ goal ∈ session.game.goals, goal.Valid) := by
  cases move with
  | choose key =>
    refine iff_of_true ⟨_, _, rfl⟩ fun isReload => ?_
    cases isReload
  | reload =>
    rw [step]
    constructor
    · rintro ⟨sights, next, stepped⟩ -
      cases read : ofJson session.toJson with
      | ok again => exact ((ofJson_toJson_eq_ok_iff resumable formed).mp read).1
      | error fault =>
        rw [read] at stepped
        cases stepped
    · intro readable
      rw [(ofJson_toJson_eq_ok_iff resumable formed).mpr ⟨readable rfl, rfl⟩]
      exact ⟨_, _, rfl⟩
  | resume =>
    rw [step, restore_snapshot resumable]
    refine iff_of_true ⟨_, _, rfl⟩ fun isReload => ?_
    cases isReload

/-! ## Runs -/

/-- A run keeps the items that there were before it, and so does each choice in it. -/
theorem keepsItems_of_run (resumable : session.Resumable) (formed : session.game.Formed)
    {moves : List Move} {sights : List Sight} {final : Session}
    (ran : session.run moves = .ok (sights, final)) :
    session.KeepsItems final ∧
      ∀ sight ∈ sights, ∃ between,
        session.KeepsItems between ∧ sight.goals = between.goalReport := by
  -- Each step hands on what the next one asks for, and prefixes of prefixes are prefixes.
  induction moves generalizing session sights with
  | nil =>
    cases ran
    exact ⟨keepsItems_self _, List.forall_mem_nil _⟩
  | cons move moves ih =>
    rcases bind_eq_ok_iff.mp ran with ⟨⟨first, next⟩, stepped, rest⟩
    rcases bind_eq_ok_iff.mp rest with ⟨⟨later, last⟩, continued, same⟩
    cases same
    rcases keepsItems_of_step resumable formed stepped with ⟨keeps, resumable', formed', shown⟩
    rcases ih resumable' formed' continued with ⟨keepsLater, shownLater⟩
    refine ⟨keeps.trans keepsLater, List.forall_mem_append.mpr ⟨?_, ?_⟩⟩
    · intro sight isFirst
      exact ⟨next, keeps, shown sight isFirst⟩
    · intro sight isLater
      rcases shownLater sight isLater with ⟨between, keepsBetween, goals⟩
      exact ⟨between, keeps.trans keepsBetween, goals⟩

/-- A run comes to its end unless it reads a session with a goal that breaks its rule. -/
theorem exists_run_iff (resumable : session.Resumable) (formed : session.game.Formed)
    (moves : List Move) :
    (∃ sights final, session.run moves = .ok (sights, final)) ↔
      (.reload ∈ moves → ∀ goal ∈ session.game.goals, goal.Valid) := by
  induction moves generalizing session with
  | nil => exact iff_of_true ⟨_, _, rfl⟩ fun reload => absurd reload List.not_mem_nil
  | cons move moves ih =>
    have oneStep := exists_step_iff resumable formed move
    constructor
    · rintro ⟨sights, final, ran⟩ reload
      rcases bind_eq_ok_iff.mp ran with ⟨⟨first, next⟩, stepped, rest⟩
      rcases bind_eq_ok_iff.mp rest with ⟨⟨later, last⟩, continued, -⟩
      rcases List.mem_cons.mp reload with now | later
      · exact oneStep.mp ⟨_, _, stepped⟩ now.symm
      · rcases keepsItems_of_step resumable formed stepped with ⟨keeps, resumable', formed', -⟩
        rw [← keeps.goals]
        exact (ih resumable' formed').mp ⟨_, _, continued⟩ later
    · intro readable
      have now : move = .reload → ∀ goal ∈ session.game.goals, goal.Valid := fun isReload =>
        readable (isReload ▸ List.mem_cons_self)
      rcases oneStep.mpr now with ⟨first, next, stepped⟩
      rcases keepsItems_of_step resumable formed stepped with ⟨keeps, resumable', formed', -⟩
      have later : .reload ∈ moves → ∀ goal ∈ next.game.goals, goal.Valid := by
        rw [keeps.goals]
        exact fun isLater => readable (List.mem_cons_of_mem _ isLater)
      rcases (ih resumable' formed').mpr later with ⟨others, final, continued⟩
      rw [run, stepped, ok_bind]
      simp only [continued, ok_bind]
      exact ⟨_, _, rfl⟩

/-- Whatever is chosen, refused, read back and resumed, the bag before a run is a beginning
of the bag after it.  A goal about items that was met is met after each choice and at the
end; and it is met when each of its items is in the bag. -/
theorem inventory_of_run (reachable : session.Reachable) (formed : session.game.Formed)
    (moves : List Move) :
    ((∃ sights final, session.run moves = .ok (sights, final)) ↔
      (.reload ∈ moves → ∀ goal ∈ session.game.goals, goal.Valid)) ∧
    (∀ sights final, session.run moves = .ok (sights, final) →
      session.player.inventory <+: final.player.inventory ∧
        ∀ (number : Nat) (items : List String),
          session.goalReport[number]? = some (.carry items, true) →
            final.goalReport[number]? = some (.carry items, true) ∧
              ∀ sight ∈ sights, sight.goals[number]? = some (.carry items, true)) ∧
    ∀ (items : List String) (player : Player),
      (Goal.carry items).isFulfilled player = true ↔ ∀ item ∈ items, item ∈ player.inventory := by
  have resumable := resumable_of_reachable reachable
  refine ⟨exists_run_iff resumable formed moves, ?_, fun _ _ => Goal.isFulfilled_carry_iff⟩
  intro sights final ran
  rcases keepsItems_of_run resumable formed ran with ⟨keeps, shown⟩
  refine ⟨keeps.items, fun number items carried => ⟨keeps.carried carried, ?_⟩⟩
  intro sight isShown
  rcases shown sight isShown with ⟨between, keepsBetween, goals⟩
  rw [goals]
  exact keepsBetween.carried carried

/-- The session that has paid for the ferry. -/
def aboard : Session := ((start ferry).choose ⟨"Pay", "Boat"⟩).2

/-- A ticket that was paid for is still there after a refused payment. -/
theorem inventory_of_run_aboard :
    aboard.Reachable ∧ aboard.game.Formed ∧
      aboard.goalReport[1]? = some (.carry ["rope", "ticket"], true) ∧
        ∃ sights final,
          aboard.run [.choose ⟨"Return", "Quay"⟩, .reload, .choose ⟨"Pay", "Boat"⟩, .resume] =
              .ok (sights, final) ∧
            aboard.player.inventory <+: final.player.inventory ∧
              final.goalReport[1]? = some (.carry ["rope", "ticket"], true) := by
  have keyed := wellFormed_ferry.story.keyed
  have reachable : aboard.Reachable := .chosen (.started ferry keyed) _
  have formed : aboard.game.Formed :=
    formed_choose (standing_start keyed) wellFormed_ferry.formed _
  have carried : aboard.goalReport[1]? = some (.carry ["rope", "ticket"], true) := by rfl
  rcases inventory_of_run reachable formed
      [.choose ⟨"Return", "Quay"⟩, .reload, .choose ⟨"Pay", "Boat"⟩, .resume] with
    ⟨completes, keeps, -⟩
  rcases completes.mpr fun _ => wellFormed_ferry.goals with ⟨sights, final, ran⟩
  rcases keeps sights final ran with ⟨begins, stays⟩
  exact ⟨reachable, formed, carried, sights, final, ran, begins,
    (stays 1 ["rope", "ticket"] carried).1⟩

end Session
end Gamebook
