import Gamebook.Action

namespace Gamebook

/-!
# Goals

A goal is a condition on the player, reported when a session ends: a counter
has reached a minimum, or certain items are carried.
-/

namespace Aspect

def goalTag : Aspect → String
  | .counter .health => "minimumHealth"
  | .counter .gold => "minimumGold"
  | .counter .score => "minimumScore"
  | .inventory => "mandatoryItems"

def ofGoalTag? (tag : String) : Option Aspect :=
  all.find? fun aspect => aspect.goalTag = tag

end Aspect

/-- A condition on the player.  The items of a goal are in ascending order, each
named once. -/
inductive Goal
  | reach (counter : Counter) (minimum : Nat)
  | carry (items : List String)
  deriving DecidableEq, Repr

namespace Goal

def aspect : Goal → Aspect
  | .reach counter _ => .counter counter
  | .carry _ => .inventory

def carrying (items : List String) : Goal :=
  .carry (ascending items)

/-- Accept items one after the other; the first that breaks the rule decides. -/
def checkItems : List String → Except Violation Unit
  | [] => .ok ()
  | item :: items => do
    Rule.item item
    checkItems items

/-- Read the payload of a goal about the given aspect. -/
def ofPayload (aspect : Aspect) (payload : Payload) : Except TagError Goal :=
  match aspect with
  | .counter counter => do
    let value ← payload.asInteger aspect.goalTag
    match Rule.counter ("minimum " ++ counter.label) counter.bounds value with
    | .ok minimum => .ok (.reach counter minimum)
    | .error violation => .error (.invalid violation)
  | .inventory => do
    let items ← payload.asItems aspect.goalTag
    match checkItems items with
    | .ok () => .ok (carrying items)
    | .error violation => .error (.invalid violation)

def ofTag (tag : String) (payload : Payload) : Except TagError Goal :=
  match Aspect.ofGoalTag? tag with
  | some aspect => ofPayload aspect payload
  | none => .error (.unknownTag "goal" tag)

/-- The written form. -/
def toEntry (goal : Goal) : TaggedEntry :=
  .single goal.aspect.goalTag <|
    match goal with
    | .reach _ minimum => .number minimum
    | .carry items => .items items

/-- Read a written form. -/
def ofEntry (entry : TaggedEntry) : Except TagError Goal := do
  let (tag, payload) ← entry.only "goal"
  ofTag tag payload

/-- The goal as it is shown to the player. -/
def describe : Goal → String
  | .reach .health minimum => "health of at least " ++ Text.decimal minimum
  | .reach .gold minimum => "at least " ++ Text.decimal minimum ++ " gold"
  | .reach .score minimum => "score of at least " ++ Text.decimal minimum
  | .carry items => "carry " ++ ", ".intercalate items

/-- Says whether the player meets the goal.  A minimum may be met exactly. -/
def isFulfilled (goal : Goal) (player : Player) : Bool :=
  match goal with
  | .reach counter minimum => minimum ≤ player.count counter
  | .carry items => items.all fun item => player.inventory.contains item

/-- Items are carried when each of them is in the bag, wherever and however often. -/
theorem isFulfilled_carry_iff {items : List String} {player : Player} :
    (carry items).isFulfilled player = true ↔ ∀ item ∈ items, item ∈ player.inventory := by
  simp only [isFulfilled, List.all_eq_true, List.contains_iff_mem]

/-- What holds of every goal that can be read: a minimum lies in its counter's
range, and items follow their rule in ascending order. -/
def Valid : Goal → Prop
  | .reach counter minimum => counter.bounds.admits minimum = true
  | .carry items => (∀ item ∈ items, Rule.item item = .ok ()) ∧ Ascending id items

/-! ## Reading what was written -/

theorem ofGoalTag?_goalTag (aspect : Aspect) : Aspect.ofGoalTag? aspect.goalTag = some aspect := by
  rcases aspect with (_ | _ | _) | _ <;> decide

theorem checkItems_eq_ok_iff {items : List String} :
    checkItems items = .ok () ↔ ∀ item ∈ items, Rule.item item = .ok () := by
  induction items with
  | nil => simp [checkItems]
  | cons item items ih => rw [checkItems, seq_eq_ok_iff, ih, List.forall_mem_cons]

/-- A goal is read back from its tag and its payload. -/
theorem ofTag_of_valid {goal : Goal} (valid : goal.Valid) :
    ∃ tag payload, goal.toEntry = .single tag payload ∧ ofTag tag payload = .ok goal := by
  cases goal with
  | reach counter minimum =>
    refine ⟨_, _, rfl, ?_⟩
    have inside : Rule.counter ("minimum " ++ counter.label) counter.bounds minimum = .ok minimum :=
      Rule.counter_eq_ok_iff.mpr ⟨rfl, valid⟩
    simp only [ofTag, aspect, ofGoalTag?_goalTag, ofPayload, Payload.asInteger, ok_bind, inside]
  | carry items =>
    refine ⟨_, _, rfl, ?_⟩
    have accepted := checkItems_eq_ok_iff.mpr valid.1
    simp only [ofTag, aspect, ofGoalTag?_goalTag, ofPayload, Payload.asItems, ok_bind, accepted,
      carrying, ascending, ascendingBy_eq_self id valid.2]

/-- A goal is read back from its written form. -/
theorem ofEntry_toEntry {goal : Goal} (valid : goal.Valid) : ofEntry goal.toEntry = .ok goal := by
  rcases ofTag_of_valid valid with ⟨tag, payload, written, read⟩
  rw [ofEntry, written, TaggedEntry.only_single, ok_bind]
  exact read

/-- The goals that can be read are those that are valid. -/
theorem valid_iff_ofTag {goal : Goal} :
    goal.Valid ↔ ∃ tag payload, ofTag tag payload = .ok goal := by
  refine ⟨fun valid => ?_, ?_⟩
  · rcases ofTag_of_valid valid with ⟨tag, payload, -, read⟩
    exact ⟨tag, payload, read⟩
  · rintro ⟨tag, payload, read⟩
    rw [ofTag] at read
    split at read
    · next aspect found =>
      cases aspect with
      | counter counter =>
        rw [ofPayload, bind_eq_ok_iff] at read
        rcases read with ⟨value, -, read⟩
        split at read
        · next minimum inside =>
          cases read
          exact (Rule.counter_eq_ok_iff.mp inside).2
        · cases read
      | inventory =>
        rw [ofPayload, bind_eq_ok_iff] at read
        rcases read with ⟨items, -, read⟩
        split at read
        · next accepted =>
          cases read
          refine ⟨fun item member => ?_, ascendingBy_ascending id items⟩
          exact checkItems_eq_ok_iff.mp accepted item (mem_of_mem_ascendingBy id item items member)
        · cases read
    · cases read

theorem valid_of_ofEntry {entry : TaggedEntry} {goal : Goal} (read : ofEntry entry = .ok goal) :
    goal.Valid := by
  rcases bind_eq_ok_iff.mp read with ⟨⟨tag, payload⟩, -, read⟩
  exact valid_iff_ofTag.mpr ⟨tag, payload, read⟩

end Goal

end Gamebook
