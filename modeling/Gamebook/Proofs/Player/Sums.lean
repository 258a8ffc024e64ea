import Mathlib.Data.List.Infix
import Gamebook.Action

namespace Gamebook

/-!
# What a list of actions adds up to

Actions are executed one at a time, and each is checked against the player that
the actions before it have left.  What can be said of the whole list is said by
sums: the totals of what it adds to the counters, and the items that it takes.
The list is executed when every beginning of it stays in the ranges, and not
already when the list as a whole does: a player who pays before earning may be
refused although the sum is fine.

The same is said of two other readings of the list.  One changes the player in
place, so that a refusal leaves a player behind.  The other computes with machine
words, which would wrap around where the numbers go on.
-/

/-! ## Counters in machine words -/

namespace Rule

/-- The sum of a counter and an amount, in the signed words that are twice as
wide as both. -/
def wideSum (current : UInt32) (amount : Int32) : Int64 :=
  current.toUInt64.toInt64 + amount.toInt64

/-- The value itself, when it fits the word of a counter. -/
def narrow? (value : Int64) : Option UInt32 :=
  if 0 ≤ value ∧ value ≤ 4294967295 then some value.toUInt64.toUInt32 else none

/-- The counter after a change, when the bounds admit it, computed in words. -/
def changeInWords (field : String) (bounds : Bounds) (current : UInt32) (amount : Int32) :
    Except Violation UInt32 :=
  let value := wideSum current amount
  match (narrow? value).filter fun count => bounds.admits count.toNat with
  | some count => .ok count
  | none => .error (.outOfRange field value.toInt bounds)

/-- The wide sum never wraps around, whatever the two words are. -/
theorem toInt_wideSum (current : UInt32) (amount : Int32) :
    (wideSum current amount).toInt = current.toNat + amount.toInt := by
  have small := current.toNat_lt
  have least := amount.le_toInt
  have most := amount.toInt_lt
  have widened : current.toUInt64.toInt64.toInt = current.toNat := by
    change current.toUInt64.toBitVec.toInt = current.toNat
    rw [BitVec.toInt_eq_toNat_of_lt]
    · exact congrArg Nat.cast current.toNat_toUInt64
    · change 2 * current.toUInt64.toNat < 2 ^ 64
      rw [UInt32.toNat_toUInt64]
      omega
  rw [wideSum, Int64.toInt_add, widened, Int32.toInt_toInt64]
  exact Int.bmod_eq_of_le (by omega) (by omega)

/-- What fits the word is kept as it is, and nothing else is. -/
theorem narrow?_eq_some_iff {value : Int64} {count : UInt32} :
    narrow? value = some count ↔ value.toInt = count.toNat := by
  have small := count.toNat_lt
  have fits : (0 ≤ value ∧ value ≤ 4294967295) ↔ 0 ≤ value.toInt ∧ value.toInt ≤ 4294967295 := by
    rw [Int64.le_iff_toInt_le, Int64.le_iff_toInt_le]
    rfl
  have kept (inside : 0 ≤ value ∧ value ≤ 4294967295) :
      (value.toUInt64.toUInt32.toNat : Int) = value.toInt := by
    have bounds := fits.mp inside
    have same : value.toUInt64.toNat = value.toInt.toNat := Int64.toNat_toUInt64_of_le inside.1
    rw [UInt64.toNat_toUInt32, same, Nat.mod_eq_of_lt (by omega), Int.toNat_of_nonneg bounds.1]
  rw [narrow?]
  by_cases inside : 0 ≤ value ∧ value ≤ 4294967295
  · rw [if_pos inside, Option.some.injEq, ← kept inside, Int.natCast_inj]
    exact ⟨congrArg UInt32.toNat, UInt32.toNat_inj.mp⟩
  · rw [if_neg inside]
    refine iff_of_false nofun fun same => inside (fits.mpr ?_)
    omega

/-- Computing in words gives what computing with numbers gives, for every counter
and every amount that words can hold. -/
theorem map_changeInWords (field : String) {bounds : Bounds} (fits : bounds.most < 4294967296)
    (current : UInt32) (amount : Int32) :
    (changeInWords field bounds current amount).map UInt32.toNat =
      change field bounds current.toNat amount.toInt := by
  have sum := toInt_wideSum current amount
  rw [changeInWords, change]
  cases kept : (narrow? (wideSum current amount)).filter fun count => bounds.admits count.toNat with
  | some count =>
    rcases Option.filter_eq_some_iff.mp kept with ⟨narrowed, admitted⟩
    have value := narrow?_eq_some_iff.mp narrowed
    exact (counter_eq_ok_iff.mpr ⟨sum.symm.trans value, admitted⟩).symm
  | none =>
    have refused : ¬ (0 ≤ (current.toNat + amount.toInt : Int) ∧
        bounds.admits (current.toNat + amount.toInt : Int).toNat = true) := by
      rintro ⟨positive, admitted⟩
      have most : (current.toNat + amount.toInt : Int).toNat ≤ bounds.most := by
        simp only [Bounds.admits, Bool.and_eq_true, decide_eq_true_eq] at admitted
        exact admitted.2
      have narrowed : narrow? (wideSum current amount) =
          some (UInt32.ofNat (current.toNat + amount.toInt : Int).toNat) := by
        rw [narrow?_eq_some_iff, sum, UInt32.toNat_ofNat_of_lt' (by simp only [UInt32.size]; omega)]
        exact (Int.toNat_of_nonneg positive).symm
      rw [narrowed, Option.filter_eq_none_iff] at kept
      refine kept _ rfl ?_
      rw [UInt32.toNat_ofNat_of_lt' (by simp only [UInt32.size]; omega)]
      exact admitted
    rw [counter, if_neg refused, ← sum]
    rfl

end Rule

/-- The greatest value of a counter fits a word. -/
theorem Counter.most_lt (counter : Counter) : counter.bounds.most < 4294967296 := by
  cases counter <;> decide

namespace Action

/-- Says that the words in which a player's counter is changed hold the numbers
that they stand for: the counter, the amount, their sum and what comes of it. -/
structure Exact (player : Player) (counter : Counter) (amount : Int) : Prop where
  held : (UInt32.ofNat (player.count counter)).toNat = player.count counter
  given : (Int32.ofInt amount).toInt = amount
  sum : (Rule.wideSum (UInt32.ofNat (player.count counter)) (Int32.ofInt amount)).toInt =
    player.count counter + amount
  result : (Rule.changeInWords counter.label counter.bounds (UInt32.ofNat (player.count counter))
      (Int32.ofInt amount)).map UInt32.toNat =
    Rule.change counter.label counter.bounds (player.count counter) amount

/-- The words hold the numbers whenever the player is valid and the amount is one
that can be read. -/
theorem exact_of_valid {player : Player} (valid : player.Valid) {counter : Counter} {amount : Int}
    (readable : (change counter amount).Valid) : Exact player counter amount := by
  have inside := valid.counters counter
  have narrow := counter.most_lt
  simp only [Bounds.admits, Bool.and_eq_true, decide_eq_true_eq] at inside
  have range := (Text.NumeralRange.fit_eq_ok_iff.mp readable).2
  simp only [Text.NumeralRange.int32] at range
  have held : (UInt32.ofNat (player.count counter)).toNat = player.count counter :=
    UInt32.toNat_ofNat_of_lt' (by simp only [UInt32.size]; omega)
  have given : (Int32.ofInt amount).toInt = amount := by
    rw [Int32.toInt_ofInt]
    exact Int.bmod_eq_of_le (by simp only [Int32.size]; omega) (by simp only [Int32.size]; omega)
  refine ⟨held, given, ?_, ?_⟩
  · rw [Rule.toInt_wideSum, held, given]
  · rw [Rule.map_changeInWords _ narrow, held, given]

/-! ## Sums -/

/-- What an action adds to a counter. -/
def amountTo (counter : Counter) : Action → Int
  | .change changed amount => if counter = changed then amount else 0
  | .take _ => 0

def item? : Action → Option String
  | .change _ _ => none
  | .take item => some item

/-- What the actions add to a counter, all of them together. -/
def total (counter : Counter) : List Action → Int
  | [] => 0
  | action :: rest => amountTo counter action + total counter rest

/-- The items that the actions take, in order. -/
def items (actions : List Action) : List String :=
  actions.filterMap item?

/-- Says that the actions, all of them together, would leave the player within the
limits: each counter, with the total that is added to it, is in its range, and the
bag has room for the items. -/
structure Within (player : Player) (actions : List Action) : Prop where
  health : 0 ≤ player.health + total .health actions ∧ player.health + total .health actions ≤ 1000
  score : 0 ≤ player.score + total .score actions ∧ player.score + total .score actions ≤ 100000
  gold : 0 ≤ player.gold + total .gold actions ∧ player.gold + total .gold actions ≤ 100000
  room : player.inventory.length + (items actions).length ≤ 20

/-- Says that one player is the other with everything added that the actions add:
to each counter its total, and to the end of the bag the items. -/
structure Adds (player : Player) (actions : List Action) (after : Player) : Prop where
  counts : ∀ counter, (after.count counter : Int) = player.count counter + total counter actions
  inventory : after.inventory = player.inventory ++ items actions
  name : after.name = player.name

theorem total_append (counter : Counter) (before after : List Action) :
    total counter (before ++ after) = total counter before + total counter after := by
  induction before with
  | nil => exact (Int.zero_add _).symm
  | cons action before ih => rw [List.cons_append, total, ih, total, Int.add_assoc]

theorem items_append (before after : List Action) :
    items (before ++ after) = items before ++ items after :=
  List.filterMap_append

/-- The limits of the counters are their ranges. -/
theorem within_iff {player : Player} {actions : List Action} :
    Within player actions ↔
      (∀ counter, (counter.bounds.least : Int) ≤ player.count counter + total counter actions ∧
          player.count counter + total counter actions ≤ counter.bounds.most) ∧
        player.inventory.length + (items actions).length ≤ Limits.inventory := by
  constructor
  · rintro ⟨health, score, gold, room⟩
    refine ⟨fun counter => ?_, room⟩
    cases counter with
    | health => exact health
    | gold => exact gold
    | score => exact score
  · rintro ⟨counters, room⟩
    exact ⟨counters .health, counters .score, counters .gold, room⟩

/-- A valid player is within the limits before anything is done. -/
theorem within_nil {player : Player} (valid : player.Valid) : Within player [] := by
  refine within_iff.mpr ⟨fun counter => ?_, valid.room⟩
  have inside := valid.counters counter
  simp only [Bounds.admits, Bool.and_eq_true, decide_eq_true_eq] at inside
  rw [total]
  omega

/-- What one list adds and then another is what they add together. -/
theorem Adds.trans {player between after : Player} {first second : List Action}
    (added : Adds player first between) (more : Adds between second after) :
    Adds player (first ++ second) after where
  counts counter := by
    rw [more.counts, added.counts, total_append, Int.add_assoc]
  inventory := by
    rw [more.inventory, added.inventory, items_append, List.append_assoc]
  name := more.name.trans added.name

/-- The limits may be looked at from any player on the way. -/
theorem Adds.within_iff {player reached : Player} {done more : List Action}
    (added : Adds player done reached) : Within reached more ↔ Within player (done ++ more) := by
  rw [Action.within_iff, Action.within_iff, added.inventory, items_append, List.length_append,
    List.length_append, Nat.add_assoc]
  refine and_congr_left fun _ => forall_congr' fun counter => ?_
  rw [added.counts, total_append, Int.add_assoc]

/-! ## One action -/

/-- An action that is not refused adds what it says. -/
theorem adds_of_execute {player after : Player} {action : Action}
    (executed : action.execute player = .ok after) : Adds player [action] after := by
  cases action with
  | change changed amount =>
    rcases bind_eq_ok_iff.mp executed with ⟨value, counted, same⟩
    have sum := (Rule.counter_eq_ok_iff.mp counted).1
    have other := Player.withCount_other player changed value
    cases same
    refine ⟨fun counter => ?_, other.2.trans (List.append_nil _).symm, other.1⟩
    rw [Player.count_withCount, total, total, Int.add_zero, amountTo]
    by_cases same : counter = changed
    · rw [if_pos same, if_pos same, same]
      exact sum.symm
    · rw [if_neg same, if_neg same, Int.add_zero]
  | take item =>
    rcases seq_eq_ok_iff.mp executed with ⟨-, put⟩
    split at put
    · cases put
      refine ⟨fun counter => ?_, rfl, rfl⟩
      cases counter <;> exact (Int.add_zero _).symm
    · cases put

/-- An action that can be read is executed when it leaves the player within the
limits, and is refused otherwise. -/
theorem exists_execute_iff {player : Player} (valid : player.Valid) {action : Action}
    (readable : action.Valid) :
    (∃ after, action.execute player = .ok after) ↔ Within player [action] := by
  constructor
  · rintro ⟨after, executed⟩
    have within := within_nil (valid_of_execute valid executed).1
    rw [(adds_of_execute executed).within_iff] at within
    exact within
  · intro within
    rcases within_iff.mp within with ⟨counters, room⟩
    cases action with
    | change counter amount =>
      have inside := counters counter
      rw [total, total, Int.add_zero, amountTo, if_pos rfl] at inside
      have counted : Rule.change counter.label counter.bounds (player.count counter) amount =
          .ok (player.count counter + amount : Int).toNat := by
        rw [Rule.change, Rule.counter_eq_ok_iff]
        refine ⟨by omega, ?_⟩
        simp only [Bounds.admits, Bool.and_eq_true, decide_eq_true_eq]
        omega
      exact ⟨_, bind_eq_ok_iff.mpr ⟨_, counted, rfl⟩⟩
    | take item =>
      refine ⟨{ player with inventory := player.inventory ++ [item] }, ?_⟩
      exact seq_eq_ok_iff.mpr ⟨readable, if_pos (Nat.lt_of_succ_le room)⟩

/-! ## A list of actions -/

/-- A list that is executed adds what it adds up to. -/
theorem adds_of_executeAll {player after : Player} {actions : List Action}
    (executed : executeAll actions player = .ok after) : Adds player actions after := by
  induction actions generalizing player with
  | nil =>
    cases executed
    exact ⟨fun _ => (Int.add_zero _).symm, (List.append_nil _).symm, rfl⟩
  | cons action actions ih =>
    rcases bind_eq_ok_iff.mp executed with ⟨between, first, rest⟩
    exact (adds_of_execute first).trans (ih rest)

/-- A list is executed when each of its beginnings leaves the player within the
limits.  The first action decides about the beginning that is only itself; what it
adds is then carried over to the limits of those that remain. -/
theorem exists_executeAll_iff {player : Player} (valid : player.Valid) {actions : List Action}
    (readable : ∀ action ∈ actions, action.Valid) :
    (∃ after, executeAll actions player = .ok after) ↔
      ∀ beginning, beginning <+: actions → Within player beginning := by
  induction actions generalizing player with
  | nil =>
    refine iff_of_true ⟨player, rfl⟩ fun beginning before => ?_
    rw [List.prefix_nil.mp before]
    exact within_nil valid
  | cons action actions ih =>
    have one := exists_execute_iff valid (readable action List.mem_cons_self)
    have others : ∀ other ∈ actions, other.Valid := fun other member =>
      readable other (List.mem_cons_of_mem action member)
    constructor
    · rintro ⟨after, executed⟩ beginning before
      rcases bind_eq_ok_iff.mp executed with ⟨between, first, rest⟩
      rcases List.prefix_cons_iff.mp before with rfl | ⟨more, rfl, shorter⟩
      · exact within_nil valid
      · have allowed := (ih (valid_of_execute valid first).1 others).mp ⟨after, rest⟩ more shorter
        exact (adds_of_execute first).within_iff.mp allowed
    · intro within
      have alone : [action] <+: action :: actions := ⟨actions, rfl⟩
      rcases one.mpr (within [action] alone) with ⟨between, first⟩
      have allowed : ∀ more, more <+: actions → Within between more := by
        intro more shorter
        have longer := within (action :: more) ((List.prefix_cons_inj action).mpr shorter)
        exact (adds_of_execute first).within_iff.mpr longer
      rcases (ih (valid_of_execute valid first).1 others).mpr allowed with ⟨after, rest⟩
      exact ⟨after, bind_eq_ok_iff.mpr ⟨between, first, rest⟩⟩

/-! ## Changing the player in place

The definitions of the actions give a new player or a violation.  Here the player
is changed where it is, so that there is a player after a refusal too. -/

/-- Go on with a value, or refuse because there is none. -/
def insist {α : Type} (value : Except Violation α) : ExceptT Violation (StateM Player) α :=
  ExceptT.mk (pure value)

/-- Execute an action on the player that is there. -/
def perform : Action → ExceptT Violation (StateM Player) Unit
  | .change counter amount => do
    let current := (← get).count counter
    let value ← insist (Rule.change counter.label counter.bounds current amount)
    modify fun player => player.withCount counter value
  | .take item => do
    insist (Rule.item item)
    if (← get).inventory.length < Limits.inventory then
      modify fun player => { player with inventory := player.inventory ++ [item] }
    else throw (.inventoryFull Limits.inventory)

/-- Execute actions in order, up to the first that is refused. -/
def performAll : List Action → ExceptT Violation (StateM Player) Unit
  | [] => pure ()
  | action :: rest => do
    action.perform
    performAll rest

/-- An action that is refused changes nothing. -/
theorem run_perform (action : Action) (player : Player) :
    action.perform.run.run player =
      match action.execute player with
      | .ok after => (.ok (), after)
      | .error violation => (.error violation, player) := by
  cases action with
  | change counter amount =>
    change (insist (Rule.change counter.label counter.bounds (player.count counter) amount) >>=
      fun value => modify fun player => player.withCount counter value).run.run player = _
    rw [execute, Player.adjust]
    cases Rule.change counter.label counter.bounds (player.count counter) amount <;> rfl
  | take item =>
    rw [perform, execute, Player.take]
    cases Rule.item item with
    | error violation => rfl
    | ok accepted =>
      change (if player.inventory.length < Limits.inventory then
          modify fun player => { player with inventory := player.inventory ++ [item] }
        else throw (.inventoryFull Limits.inventory) :
          ExceptT Violation (StateM Player) Unit).run.run player = _
      rw [ok_bind]
      split <;> rfl

/-- What comes of two steps starts from what the first has left. -/
theorem run_seq (first rest : ExceptT Violation (StateM Player) Unit) (player : Player) :
    (do first; rest).run.run player =
      match first.run.run player with
      | (.ok (), between) => rest.run.run between
      | (.error violation, left) => (.error violation, left) := by
  change (match first.run.run player with
    | (result, left) => (ExceptT.bindCont (fun _ => rest) result).run left) = _
  rcases first.run.run player with ⟨violation | ⟨⟩, left⟩ <;> rfl

theorem run_performAll_cons (action : Action) (rest : List Action) (player : Player) :
    (performAll (action :: rest)).run.run player =
      match action.execute player with
      | .ok between => (performAll rest).run.run between
      | .error violation => (.error violation, player) := by
  rw [performAll, run_seq, run_perform]
  cases action.execute player <;> rfl

/-- Actions that are executed leave the player that they give. -/
theorem run_performAll_append {player reached : Player} {before : List Action}
    (executed : executeAll before player = .ok reached) (rest : List Action) :
    (performAll (before ++ rest)).run.run player = (performAll rest).run.run reached := by
  induction before generalizing player with
  | nil =>
    cases executed
    rfl
  | cons action before ih =>
    rcases bind_eq_ok_iff.mp executed with ⟨between, first, more⟩
    rw [List.cons_append, run_performAll_cons, first]
    exact ih more

/-! ## Where a list stops -/

/-- Says that a beginning of the actions would leave the limits, and that no shorter
one would. -/
structure Shortest (player : Player) (actions beginning : List Action) : Prop where
  begins : beginning <+: actions
  outside : ¬ Within player beginning
  shortest : ∀ other, other <+: actions → ¬ Within player other → beginning.length ≤ other.length

/-- Says that the actions are executed up to one that is refused.  The refusal is
the result, and a player that is changed in place is left as the actions before it
have made it. -/
structure Stops (player : Player) (actions before : List Action) (action : Action)
    (reached : Player) (violation : Violation) : Prop where
  executed : executeAll before player = .ok reached
  adds : Adds player before reached
  refused : action.execute reached = .error violation
  result : executeAll actions player = .error violation
  left : (performAll actions).run.run player = (.error violation, reached)

/-- The first action that is refused ends the shortest beginning that would leave
the limits. -/
theorem exists_stops {player : Player} (valid : player.Valid) {actions : List Action}
    (readable : ∀ action ∈ actions, action.Valid) {violation : Violation}
    (failed : executeAll actions player = .error violation) :
    ∃ before action reached, Shortest player actions (before ++ [action]) ∧
      Stops player actions before action reached violation := by
  rcases executeAll_eq_error_iff.mp failed with
    ⟨before, action, rest, reached, rfl, executed, refused⟩
  have begins : before ++ [action] <+: before ++ action :: rest := ⟨rest, by simp⟩
  have readableOf {beginning : List Action} (earlier : beginning <+: before ++ action :: rest) :
      ∀ other ∈ beginning, other.Valid := fun other member =>
    readable other (earlier.subset member)
  -- Everything before the action is executed, so each shorter beginning is within the limits.
  have within : ∀ beginning, beginning <+: before → Within player beginning :=
    (exists_executeAll_iff valid (readableOf (List.prefix_append before _))).mp ⟨reached, executed⟩
  have outside : ¬ Within player (before ++ [action]) := by
    intro inside
    have allowed : ∀ beginning, beginning <+: before ++ [action] → Within player beginning := by
      intro beginning earlier
      rcases List.prefix_concat_iff.mp earlier with rfl | shorter
      · exact inside
      · exact within beginning shorter
    rcases (exists_executeAll_iff valid (readableOf begins)).mpr allowed with ⟨after, done⟩
    have stopped : executeAll (before ++ [action]) player = .error violation :=
      executeAll_eq_error_iff.mpr ⟨before, action, [], reached, rfl, executed, refused⟩
    exact error_ne_ok (stopped.symm.trans done)
  refine ⟨before, action, reached, ⟨begins, outside, ?_⟩, executed, adds_of_executeAll executed,
    refused, failed, ?_⟩
  · intro other earlier beyond
    by_contra shorter
    rw [List.length_append, List.length_singleton, Nat.not_le, Nat.lt_succ_iff] at shorter
    exact beyond (within other
      (List.prefix_of_prefix_length_le earlier (List.prefix_append before _) shorter))
  · rw [run_performAll_append executed, run_performAll_cons, refused]

/-- What a list of actions does is known from its sums.  It is executed when every
beginning of it stays within the limits, and then the player ends with everything
added.  Otherwise it stops at the last action of the shortest beginning that would
leave them.  No amount makes the words wrap around in which a counter is changed. -/
theorem executeAll_by_sums {player : Player} (valid : player.Valid) {actions : List Action}
    (readable : ∀ action ∈ actions, action.Valid) :
    ((∃ after, executeAll actions player = .ok after) ↔
        ∀ beginning, beginning <+: actions → Within player beginning) ∧
      (∀ after, executeAll actions player = .ok after →
        Adds player actions after ∧ (performAll actions).run.run player = (.ok (), after)) ∧
      ((∃ beginning, beginning <+: actions ∧ ¬ Within player beginning) →
        ∃ before action reached violation, Shortest player actions (before ++ [action]) ∧
          Stops player actions before action reached violation) ∧
      ∀ before counter amount reached, before ++ [change counter amount] <+: actions →
        executeAll before player = .ok reached → Exact reached counter amount := by
  have executable := exists_executeAll_iff valid readable
  refine ⟨executable, ?_, ?_, ?_⟩
  · intro after executed
    refine ⟨adds_of_executeAll executed, ?_⟩
    have ran := run_performAll_append executed []
    rw [List.append_nil] at ran
    exact ran
  · rintro ⟨beginning, begins, outside⟩
    cases done : executeAll actions player with
    | ok after => exact absurd (executable.mp ⟨after, done⟩ beginning begins) outside
    | error violation =>
      rcases exists_stops valid readable done with ⟨before, action, reached, stops⟩
      exact ⟨before, action, reached, violation, stops⟩
  · intro before counter amount reached begins executed
    refine exact_of_valid (valid_of_executeAll valid executed).1 ?_
    exact readable _ (begins.subset (List.mem_append_right before List.mem_cons_self))

/-- A purchase that is made before the pay comes in is refused, although the list as
a whole is within the limits. -/
theorem executeAll_by_sums_purchase :
    let player : Player := ⟨"Ada", 10, 0, 5, ["rope"]⟩
    let actions := [change .health 3, change .gold (-7), change .gold 9, take "lamp"]
    player.Valid ∧ (∀ action ∈ actions, action.Valid) ∧ Within player actions ∧
      ∃ before action reached violation, Shortest player actions (before ++ [action]) ∧
        Stops player actions before action reached violation := by
  intro player actions
  have valid : player.Valid := by decide
  have readable : ∀ action ∈ actions, action.Valid := by decide
  refine ⟨valid, readable, ⟨by decide, by decide, by decide, by decide⟩, ?_⟩
  refine (executeAll_by_sums valid readable).2.2.1 ⟨[change .health 3, change .gold (-7)], ?_, ?_⟩
  · exact List.prefix_append _ _
  · intro within
    exact absurd within.gold (by decide)

end Action
end Gamebook
