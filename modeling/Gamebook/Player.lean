import Gamebook.Limits

namespace Gamebook

/-!
# The player

The player is the only thing that play changes: three counters, each kept in
its range, and a bag of items in the order in which they were found.
-/

/-- A counter of the player. -/
inductive Counter
  | health
  | gold
  | score
  deriving DecidableEq, Repr

def Counter.all : List Counter := [.health, .gold, .score]

theorem Counter.mem_all (counter : Counter) : counter ∈ all := by
  cases counter <;> decide

def Counter.bounds : Counter → Bounds
  | .health => Limits.health
  | .gold => Limits.gold
  | .score => Limits.score

/-- The counter's name in messages. -/
def Counter.label : Counter → String
  | .health => "health"
  | .gold => "gold"
  | .score => "score"

/-- The state of the player.  The inventory is a bag: an item may be held more
than once. -/
structure Player where
  name : String
  health : Nat
  score : Nat
  gold : Nat
  inventory : List String
  deriving DecidableEq, Repr

namespace Player

def count (player : Player) : Counter → Nat
  | .health => player.health
  | .gold => player.gold
  | .score => player.score

def withCount (player : Player) (counter : Counter) (value : Nat) : Player :=
  match counter with
  | .health => { player with health := value }
  | .gold => { player with gold := value }
  | .score => { player with score := value }

/-- A player with an empty inventory. -/
def create (name : String) (health score gold : Nat) : Except Violation Player := do
  Rule.text "player name" Limits.playerName name
  let health ← Rule.counter "health" Limits.health health
  let score ← Rule.counter "score" Limits.score score
  let gold ← Rule.counter "gold" Limits.gold gold
  .ok { name, health, score, gold, inventory := [] }

/-- Change a counter.  A change that would leave the counter's range is refused
and has no effect. -/
def adjust (player : Player) (counter : Counter) (amount : Int) : Except Violation Player := do
  let value ← Rule.change counter.label counter.bounds (player.count counter) amount
  .ok (player.withCount counter value)

/-- Put an item at the end of the inventory. -/
def take (player : Player) (item : String) : Except Violation Player := do
  Rule.item item
  if player.inventory.length < Limits.inventory then
    .ok { player with inventory := player.inventory ++ [item] }
  else .error (.inventoryFull Limits.inventory)

/-- Put items into the inventory, in order. -/
def takeAll : Player → List String → Except Violation Player
  | player, [] => .ok player
  | player, item :: items => do takeAll (← player.take item) items

/-- What holds of every player that the library makes: the name and the items
follow their rules, the counters are in range, and the inventory has room for
what it holds. -/
structure Valid (player : Player) : Prop where
  name : Rule.text "player name" Limits.playerName player.name = .ok ()
  counters : ∀ counter : Counter, counter.bounds.admits (player.count counter) = true
  items : ∀ item ∈ player.inventory, Rule.item item = .ok ()
  room : player.inventory.length ≤ Limits.inventory

theorem valid_iff {player : Player} :
    player.Valid ↔
      Rule.text "player name" Limits.playerName player.name = .ok () ∧
        (∀ counter ∈ Counter.all, counter.bounds.admits (player.count counter) = true) ∧
          (∀ item ∈ player.inventory, Rule.item item = .ok ()) ∧
            player.inventory.length ≤ Limits.inventory :=
  ⟨fun h => ⟨h.name, fun counter _ => h.counters counter, h.items, h.room⟩,
    fun h => ⟨h.1, fun counter => h.2.1 counter (Counter.mem_all counter), h.2.2.1, h.2.2.2⟩⟩

instance decidableValid (player : Player) : Decidable player.Valid :=
  decidable_of_iff _ valid_iff.symm

/-! ## Changes keep the player valid -/

theorem count_withCount (player : Player) (changed counter : Counter) (value : Nat) :
    (player.withCount changed value).count counter =
      if counter = changed then value else player.count counter := by
  cases changed <;> cases counter <;> rfl

theorem withCount_other (player : Player) (counter : Counter) (value : Nat) :
    (player.withCount counter value).name = player.name ∧
      (player.withCount counter value).inventory = player.inventory := by
  cases counter <;> exact ⟨rfl, rfl⟩

/-- A counter may have any value in its range. -/
theorem Valid.withCount {player : Player} (valid : player.Valid) {counter : Counter} {value : Nat}
    (inside : counter.bounds.admits value = true) : (player.withCount counter value).Valid := by
  have other := withCount_other player counter value
  refine ⟨other.1 ▸ valid.name, fun each => ?_, other.2 ▸ valid.items, other.2 ▸ valid.room⟩
  rw [count_withCount]
  by_cases same : each = counter
  · rw [if_pos same, same]
    exact inside
  · rw [if_neg same]
    exact valid.counters each

/-- A change that is not refused leaves every counter in its range. -/
theorem valid_of_adjust {player after : Player} {counter : Counter} {amount : Int}
    (valid : player.Valid) (adjusted : player.adjust counter amount = .ok after) :
    after.Valid ∧ after.name = player.name := by
  rcases bind_eq_ok_iff.mp adjusted with ⟨value, changed, same⟩
  cases same
  exact ⟨valid.withCount (Rule.counter_eq_ok_iff.mp changed).2,
    (withCount_other player counter value).1⟩

/-- An item that is not refused follows its rule and finds room. -/
theorem valid_of_take {player after : Player} {item : String} (valid : player.Valid)
    (taken : player.take item = .ok after) : after.Valid ∧ after.name = player.name := by
  rcases seq_eq_ok_iff.mp taken with ⟨accepted, put⟩
  split at put
  · next room =>
    cases put
    refine ⟨⟨valid.name, valid.counters, fun other member => ?_, ?_⟩, rfl⟩
    · rcases List.mem_append.mp member with held | new
      · exact valid.items other held
      · exact List.mem_singleton.mp new ▸ accepted
    · rw [List.length_append]
      exact room
  · cases put

end Player

end Gamebook
