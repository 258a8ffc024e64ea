import Gamebook.Settings

namespace Gamebook

/-!
# Settings that are loaded

Whatever a settings file holds, a game can be started with the settings that are
loaded from it.  A file counts as a whole or not at all: each of its goals is read
as a goal, and its player is made once to see whether that can be done.  If
something is wrong the usual settings take the place of the file's, and they
describe a player and a goal that follow the rules.
-/

namespace Player

/-- A player that is made follows the rules, with nothing in the inventory. -/
theorem valid_of_create {name : String} {health score gold : Nat} {player : Player}
    (created : create name health score gold = .ok player) : player.Valid := by
  rcases seq_eq_ok_iff.mp created with ⟨named, rest⟩
  rcases bind_eq_ok_iff.mp rest with ⟨health', healthInside, rest⟩
  rcases bind_eq_ok_iff.mp rest with ⟨score', scoreInside, rest⟩
  rcases bind_eq_ok_iff.mp rest with ⟨gold', goldInside, same⟩
  cases same
  refine ⟨named, fun counter => ?_, List.forall_mem_nil _, Nat.zero_le _⟩
  cases counter with
  | health => exact (Rule.counter_eq_ok_iff.mp healthInside).2
  | gold => exact (Rule.counter_eq_ok_iff.mp goldInside).2
  | score => exact (Rule.counter_eq_ok_iff.mp scoreInside).2

theorem valid_of_takeAll {player after : Player} {items : List String} (valid : player.Valid)
    (taken : player.takeAll items = .ok after) : after.Valid := by
  induction items generalizing player with
  | nil =>
    cases taken
    exact valid
  | cons item items ih =>
    rcases bind_eq_ok_iff.mp taken with ⟨next, takeFirst, rest⟩
    exact ih (valid_of_take valid takeFirst).1 rest

end Player

theorem PlayerSettings.valid_of_player {settings : PlayerSettings} {player : Player}
    (made : settings.player = .ok player) : player.Valid := by
  rcases bind_eq_ok_iff.mp made with ⟨bare, created, taken⟩
  exact Player.valid_of_takeAll (Player.valid_of_create created) taken

namespace Settings

open Toml (Item Members)

/-! ## Lists and fields -/

/-- What holds of every value that can be taken holds of all the values of a list. -/
theorem forall_of_all? {α : Type} {take : Item → Option α} {holds : α → Prop}
    (each : ∀ item value, take item = some value → holds value) {items : List Item}
    {values : List α} (taken : all? take items = some values) : ∀ value ∈ values, holds value := by
  induction items generalizing values with
  | nil =>
    cases taken
    exact List.forall_mem_nil _
  | cons item items ih =>
    rcases Option.bind_eq_some_iff.mp taken with ⟨first, takeFirst, rest⟩
    rcases Option.bind_eq_some_iff.mp rest with ⟨others, takeOthers, same⟩
    cases same
    exact List.forall_mem_cons.mpr ⟨each item first takeFirst, ih takeOthers⟩

theorem forall_of_list? {α : Type} {take : Item → Option α} {holds : α → Prop}
    (each : ∀ item value, take item = some value → holds value) {item : Item}
    {values : List α} (taken : list? take item = some values) : ∀ value ∈ values, holds value := by
  cases item with
  | array items => exact forall_of_all? each taken
  | tables all => exact forall_of_all? each taken
  | _ => cases taken

/-- A field has the usual value or one that was taken. -/
theorem field_cases {α : Type} {members : Members} {name : String} {take : Item → Option α}
    {usual value : α} (found : field members name take usual = some value) :
    value = usual ∨ ∃ item, take item = some value := by
  unfold field at found
  split at found
  · cases found
    exact .inl rfl
  · next item listed => exact .inr ⟨item, found⟩

/-! ## Goals and the player -/

theorem valid_of_goal? {item : Item} {goal : Goal} (taken : goal? item = some goal) :
    goal.Valid := by
  cases item with
  | table kind members =>
    rcases Option.bind_eq_some_iff.mp taken with ⟨payloads, -, rest⟩
    generalize TaggedEntry.ofWritten _ = entry at rest
    cases read : Goal.ofEntry entry with
    | ok found =>
      rw [read] at rest
      cases rest
      exact Goal.valid_of_ofEntry read
    | error error =>
      rw [read] at rest
      cases rest
  | _ => cases taken

/-- What holds of settings with which games can be started. -/
structure Playable (settings : Settings) : Prop where
  goals : ∀ goal ∈ settings.goals, goal.Valid
  player : ∃ player, settings.player.player = .ok player

theorem playable_usual : Playable {} where
  goals := List.forall_mem_singleton.mpr (show Limits.health.admits 1 = true by decide)
  player := ⟨⟨"Wanderer", 100, 0, 0, []⟩, rfl⟩

theorem playable_of_ofMembers? {members : Members} {settings : Settings}
    (given : ofMembers? members = some settings) : settings.Playable := by
  rcases Option.bind_eq_some_iff.mp given with ⟨goals, takeGoals, rest⟩
  rcases Option.bind_eq_some_iff.mp rest with ⟨folders, -, rest⟩
  rcases Option.bind_eq_some_iff.mp rest with ⟨player, -, rest⟩
  rcases Option.bind_eq_some_iff.mp rest with ⟨width, -, rest⟩
  split at rest
  · next made created =>
    cases rest
    refine ⟨?_, made, created⟩
    rcases field_cases takeGoals with rfl | ⟨item, taken⟩
    · exact playable_usual.goals
    · exact forall_of_list? (fun _ _ => valid_of_goal?) taken
  · cases rest

/-- Every file gives settings with which games can be started. -/
theorem playable_load (tree : Files.Tree) (path : String) : (load tree path).Playable := by
  unfold load
  split
  · next text read =>
    cases given : ofText? text with
    | none => exact playable_usual
    | some settings =>
      rcases Option.bind_eq_some_iff.mp given with ⟨members, -, given⟩
      exact playable_of_ofMembers? given
  · exact playable_usual

end Settings
end Gamebook
