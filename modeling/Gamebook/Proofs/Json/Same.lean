import Mathlib.Data.List.Forall2
import Mathlib.Data.List.Nodup
import Gamebook.Json.Reading

namespace Gamebook
namespace Json
namespace Reading

/-!
# Trees that hold the same

The order of an object's members says nothing, so trees are compared up to it.  The
items of a list have an order, and all else is compared as it is.  A tree with a
fault, or with a key that is written twice, is not the same as anything: only whole
values are compared.

A document may leave out what has a default, and may write a value in more than one
way.  Such a tree is completed before it is compared: the members that stand there
are changed one by one, and members are added for the keys that are absent.
-/

/-- Says that two trees are whole and hold the same value. -/
inductive Same : Reading → Reading → Prop
  | null : Same .null .null
  | bool (value : Bool) : Same (.bool value) (.bool value)
  | number (value : Numeral) : Same (.number value) (.number value)
  | string (value : String) : Same (.string value) (.string value)
  | array {items others : List Reading} (each : List.Forall₂ Same items others) :
    Same (.array items .closed) (.array others .closed)
  | object {members others : List (String × Reading)} (distinct : (members.map (·.1)).Nodup)
    (sameKeys : (members.map (·.1)).Perm (others.map (·.1)))
    (each : ∀ key value other, (key, value) ∈ members → (key, other) ∈ others → Same value other) :
    Same (.object members none) (.object others none)

/-- Says that no object of the tree repeats a key. -/
inductive KeysOnce : Reading → Prop
  | null : KeysOnce .null
  | bool (value : Bool) : KeysOnce (.bool value)
  | number (value : Numeral) : KeysOnce (.number value)
  | string (value : String) : KeysOnce (.string value)
  | array {items : List Reading} (each : ∀ item ∈ items, KeysOnce item) (ending : ListEnd) :
    KeysOnce (.array items ending)
  | object {members : List (String × Reading)} (distinct : (members.map (·.1)).Nodup)
    (each : ∀ member ∈ members, KeysOnce member.2) (fault : Option Fault) :
    KeysOnce (.object members fault)
  | strayKey {found : Reading} (once : KeysOnce found) : KeysOnce (.strayKey found)
  | unread (fault : Fault) : KeysOnce (.unread fault)
  | malformed (fault : Fault) : KeysOnce (.malformed fault)

def IsObject (reading : Reading) : Prop := ∃ members fault, reading = .object members fault

def IsString (reading : Reading) : Prop := ∃ value, reading = .string value

/-- The items of a list. -/
def items : Reading → List Reading
  | .array items _ => items
  | _ => []

/-- The members of an object. -/
def members : Reading → List (String × Reading)
  | .object members _ => members
  | _ => []

theorem KeysOnce.items {reading : Reading} (once : reading.KeysOnce) :
    ∀ item ∈ reading.items, item.KeysOnce := by
  cases once with
  | array each ending => exact each
  | _ => exact List.forall_mem_nil _

theorem KeysOnce.members {reading : Reading} (once : reading.KeysOnce) :
    ∀ member ∈ reading.members, member.2.KeysOnce := by
  cases once with
  | object distinct each fault => exact each
  | _ => exact List.forall_mem_nil _

/-- The list with every item changed. -/
def eachItem (change : Reading → Reading) : Reading → Reading
  | .array items ending => .array (items.map change) ending
  | reading => reading

/-- The object with every member's value changed, in a way that may depend on the key,
and with the defaults for the keys that it does not have. -/
def completed (change : String → Reading → Reading) (defaults : List (String × Reading)) :
    Reading → Reading
  | .object members fault =>
    .object
      (members.map (fun member => (member.1, change member.1 member.2)) ++
        defaults.filter fun absent => absent.1 ∉ members.map (·.1))
      fault
  | reading => reading

theorem Same.single (key : String) {value other : Reading} (same : Same value other) :
    Same (.object [(key, value)] none) (.object [(key, other)] none) := by
  refine .object (List.nodup_singleton _) (.refl _) ?_
  intro _ _ _ member member'
  cases List.mem_singleton.mp member
  cases List.mem_singleton.mp member'
  exact same

/-- A completed object is the same as another one that has all of its keys, when the
changed values and the defaults are the same as what the other has there. -/
theorem same_completed {members others defaults : List (String × Reading)}
    {change : String → Reading → Reading} (distinct : (members.map (·.1)).Nodup)
    (distinctDefaults : (defaults.map (·.1)).Nodup) (distinctOthers : (others.map (·.1)).Nodup)
    (known : ∀ key ∈ members.map (·.1), key ∈ others.map (·.1))
    (knownDefaults : ∀ key ∈ defaults.map (·.1), key ∈ others.map (·.1))
    (given : ∀ key value other, (key, value) ∈ members → (key, other) ∈ others →
      Same (change key value) other)
    (absent : ∀ key other, (key, other) ∈ others → key ∉ members.map (·.1) →
      ∃ value, (key, value) ∈ defaults ∧ Same value other) :
    Same (completed change defaults (.object members none)) (.object others none) := by
  have changedKeys : (members.map fun member => (member.1, change member.1 member.2)).map (·.1) =
      members.map (·.1) := List.map_map
  have added : ∀ {member}, member ∈ (defaults.filter fun absent => absent.1 ∉ members.map (·.1)) →
      member ∈ defaults ∧ member.1 ∉ members.map (·.1) := by
    intro member listed
    rcases List.mem_filter.mp listed with ⟨listed, absent⟩
    exact ⟨listed, of_decide_eq_true absent⟩
  have keysOnce : ((members.map (fun member => (member.1, change member.1 member.2)) ++
      defaults.filter fun absent => absent.1 ∉ members.map (·.1)).map (·.1)).Nodup := by
    rw [List.map_append, changedKeys]
    refine List.nodup_append.mpr ⟨distinct, ?_, ?_⟩
    · exact distinctDefaults.sublist (List.filter_sublist.map _)
    · rintro key inMembers _ inDefaults rfl
      rcases List.mem_map.mp inDefaults with ⟨member, listed, rfl⟩
      exact (added listed).2 inMembers
  refine .object keysOnce ?_ ?_
  · refine (List.perm_ext_iff_of_nodup keysOnce distinctOthers).mpr fun key => ?_
    rw [List.map_append, changedKeys, List.mem_append]
    constructor
    · rintro (inMembers | inDefaults)
      · exact known key inMembers
      · rcases List.mem_map.mp inDefaults with ⟨member, listed, rfl⟩
        exact knownDefaults _ (List.mem_map_of_mem (added listed).1)
    · intro inOthers
      by_cases inMembers : key ∈ members.map (·.1)
      · exact .inl inMembers
      · rcases List.mem_map.mp inOthers with ⟨⟨_, other⟩, listed, rfl⟩
        rcases absent _ other listed inMembers with ⟨value, isDefault, -⟩
        refine .inr (List.mem_map.mpr ⟨(_, value), List.mem_filter.mpr ⟨isDefault, ?_⟩, rfl⟩)
        exact decide_eq_true inMembers
  · intro key value other inCompleted inOthers
    rcases List.mem_append.mp inCompleted with changed | isAdded
    · rcases List.mem_map.mp changed with ⟨⟨_, before⟩, listed, same⟩
      cases same
      exact given _ before other listed inOthers
    · rcases added isAdded with ⟨isDefault, notGiven⟩
      rcases absent key other inOthers notGiven with ⟨found, isDefault', same⟩
      have onlyOne := List.inj_on_of_nodup_map distinctDefaults isDefault isDefault' rfl
      cases onlyOne
      exact same

end Reading
end Json
end Gamebook
