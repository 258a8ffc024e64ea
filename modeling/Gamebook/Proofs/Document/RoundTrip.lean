import Gamebook.Document.Session
import Gamebook.Proofs.Json.RoundTrip

namespace Gamebook

/-!
# What is written into a document is read back from it

A record is written with every field, in the order of its shape, so reading it
meets no problem of the record as such and puts the fields one after the other.
What is left to show is that every value that follows the rules passes the
checks by which it is read, from the payload of an action up to a snapshot.

A goal may be made without following its rule.  It is written like any other, but it
is not read back, and neither is a game or a snapshot that has it.

Alongside, every value is shown to be nested no deeper than a document may be.
-/

namespace Json
namespace Decode

variable {ρ α β : Type}

/-! ## Lists, objects and records -/

@[simp] theorem string_string (value : String) :
    string (ρ := ρ) (Value.string value).reading = .ok value := rfl

@[simp] theorem bool_bool (value : Bool) : bool (ρ := ρ) (Value.bool value).reading = .ok value :=
  rfl

theorem word32_integer {value : Nat} (fits : value ≤ greatest32) :
    word32 (ρ := ρ) (Value.integer value).reading = .ok value := by
  rw [Value.reading, word32, if_pos (by omega)]
  rfl

/-- A list is read back when each of its items is. -/
theorem list_array (item : Decoder ρ α) (encode : α → Value) (values : List α)
    (kept : ∀ value ∈ values, item (encode value).reading = .ok value) :
    list item (Value.array (values.map encode)).reading = .ok values := by
  have taken : items item (itemReadings (values.map encode)) = .ok values := by
    induction values with
    | nil => rfl
    | cons value values ih =>
      have more := ih fun other member => kept other (List.mem_cons_of_mem value member)
      rw [List.map_cons, itemReadings, items, kept value List.mem_cons_self, ok_bind, more]
      rfl
  rw [Value.reading, list, taken]
  rfl

/-- A list is read only if each of its items is. -/
theorem exists_of_list_array {item : Decoder ρ α} {encode : β → Value} {values : List β}
    {taken : List α} (read : list item (Value.array (values.map encode)).reading = .ok taken) :
    ∀ value ∈ values, ∃ again, item (encode value).reading = .ok again := by
  have ofItems : ∀ {taken}, items item (itemReadings (values.map encode)) = .ok taken →
      ∀ value ∈ values, ∃ again, item (encode value).reading = .ok again := by
    clear read
    induction values with
    | nil => exact fun _ => List.forall_mem_nil _
    | cons value values ih =>
      intro taken read
      rcases bind_eq_ok_iff.mp read with ⟨first, takeFirst, rest⟩
      rcases bind_eq_ok_iff.mp rest with ⟨others, takeOthers, -⟩
      exact List.forall_mem_cons.mpr ⟨⟨first, takeFirst⟩, ih takeOthers⟩
  rcases bind_eq_ok_iff.mp read with ⟨found, takeItems, -⟩
  exact ofItems takeItems

theorem list_strings (values : List String) :
    list (ρ := ρ) string (Value.array (values.map .string)).reading = .ok values :=
  list_array string .string values fun _ _ => rfl

/-- An object with free keys is read back when each of its members is. -/
theorem map_object (value : Decoder ρ α) (key : β → String) (content : β → α) (encode : β → Value)
    (entries : List β)
    (kept : ∀ entry ∈ entries, value (encode entry).reading = .ok (content entry)) :
    map value (Value.object (entries.map fun entry => (key entry, encode entry))).reading =
      .ok (entries.map fun entry => (key entry, content entry)) := by
  have taken : members value (memberReadings (entries.map fun entry => (key entry, encode entry))) =
      .ok (entries.map fun entry => (key entry, content entry)) := by
    induction entries with
    | nil => rfl
    | cons entry entries ih =>
      have more := ih fun other member => kept other (List.mem_cons_of_mem entry member)
      rw [List.map_cons, memberReadings, members, kept entry List.mem_cons_self, ok_bind, more]
      rfl
  rw [Value.reading, map, taken]
  rfl

/-- Members with different keys, all of them known, are all given. -/
theorem knownMembers_of_nodup {shape : Shape} {seen : List String}
    {readings : List (String × Reading)} (known : ∀ member ∈ readings, member.1 ∈ shape.fields)
    (fresh : ∀ member ∈ readings, member.1 ∉ seen) (distinct : (readings.map (·.1)).Nodup) :
    knownMembers (ρ := ρ) shape seen none readings = (readings, none) := by
  induction readings generalizing seen with
  | nil => rfl
  | cons member readings ih =>
    rcases member with ⟨key, reading⟩
    rw [List.map_cons, List.nodup_cons] at distinct
    have listed : shape.fields.contains key = true :=
      List.contains_iff_mem.mpr (known _ List.mem_cons_self)
    have unseen : ¬ seen.contains key = true := fun repeated =>
      fresh _ List.mem_cons_self (List.contains_iff_mem.mp repeated)
    have fresh' : ∀ other ∈ readings, other.1 ∉ key :: seen := by
      intro other later inSeen
      rcases List.mem_cons.mp inSeen with same | before
      · exact distinct.1 (same ▸ List.mem_map_of_mem (f := (·.1)) later)
      · exact fresh other (List.mem_cons_of_mem _ later) before
    have more := ih (fun other later => known other (List.mem_cons_of_mem _ later)) fresh'
      distinct.2
    rw [knownMembers, if_neg (by rw [listed]; decide), if_neg unseen, more]

theorem keys_memberReadings (members : List (String × Value)) :
    (memberReadings members).map (·.1) = members.map (·.1) := by
  rw [memberReadings_eq_map, List.map_map]
  rfl

/-- A record that is written with exactly the fields of its shape gives them all, so
reading it is putting them one after the other and going on with the record that they
make. -/
theorem collect_written {σ : Type} {shape : Shape} {members : List (String × Value)}
    (fields : members.map (·.1) = shape.fields) (distinct : shape.fields.Nodup) (empty : σ)
    (put : String → Reading → σ → Except (Problem ρ) σ)
    (rest : Listing ρ → σ → Except (Problem ρ) α) :
    (do
      let listing ← listing shape (Value.object members).reading
      let made ← listing.collect empty put
      rest listing made) =
      (do
        let made ← Listing.putAll put (memberReadings members) empty
        rest ⟨shape, true, memberReadings members, none⟩ made) := by
  have keys := (keys_memberReadings members).trans fields
  have given : knownMembers (ρ := ρ) shape [] none (memberReadings members) = _ :=
    knownMembers_of_nodup (fun member listed => keys ▸ List.mem_map_of_mem listed)
      (fun member listed => List.not_mem_nil) (keys ▸ distinct)
  rw [Value.reading, listing, given, ok_bind, Listing.collect]
  cases Listing.putAll put (memberReadings members) empty <;> rfl

/-- When all fields can be put, reading goes on with the record that they make. -/
theorem collect_object {σ : Type} {shape : Shape} {members : List (String × Value)}
    (fields : members.map (·.1) = shape.fields) (distinct : shape.fields.Nodup) {empty state : σ}
    {put : String → Reading → σ → Except (Problem ρ) σ}
    (filled : Listing.putAll put (memberReadings members) empty = .ok state)
    (rest : Listing ρ → σ → Except (Problem ρ) α) :
    (do
      let listing ← listing shape (Value.object members).reading
      let made ← listing.collect empty put
      rest listing made) = rest ⟨shape, true, memberReadings members, none⟩ state := by
  rw [collect_written fields distinct, filled, ok_bind]

@[simp] theorem require_some {listing : Listing ρ} (field : String) (value : α) :
    listing.require field (some value) = .ok value := rfl

end Decode
end Json

/-! ## Shapes -/

/-- What holds of every goal, whether or not it follows its rule: the minimum is a number of
32 bits, and the items are in ascending order. -/
def Goal.Shaped : Goal → Prop
  | .reach _ minimum => minimum ≤ Json.Decode.greatest32
  | .carry items => Ascending id items

/-- A count that is in its range fits 32 bits. -/
theorem Counter.le_greatest32 {counter : Counter} {count : Nat}
    (admitted : counter.bounds.admits count = true) : count ≤ Json.Decode.greatest32 := by
  have bounds : counter.bounds.most ≤ Json.Decode.greatest32 := by cases counter <;> decide
  exact Nat.le_trans (of_decide_eq_true (Bool.and_eq_true_iff.mp admitted).2) bounds

theorem Goal.Valid.shaped {goal : Goal} (valid : goal.Valid) : goal.Shaped := by
  cases goal with
  | reach counter minimum => exact Counter.le_greatest32 valid
  | carry items => exact valid.2

theorem Goal.exists_toEntry_eq (goal : Goal) :
    ∃ tag payload, goal.toEntry = .single tag payload := by
  cases goal <;> exact ⟨_, _, rfl⟩

/-- What holds of every game that can be made.  Its goals need not follow their rules. -/
structure Game.Formed (game : Game) : Prop where
  player : game.player.Valid
  story : game.story.WellFormed
  goals : ∀ goal ∈ game.goals, goal.Shaped

theorem Game.WellFormed.formed {game : Game} (wellFormed : game.WellFormed) : game.Formed :=
  ⟨wellFormed.player, wellFormed.story, fun goal member => (wellFormed.goals goal member).shaped⟩

namespace Document

open Json (Value Reading)
open Json.Decode
  (collect_object collect_written exists_of_list_array list_array list_strings map_object)

/-! ## Actions and goals -/

/-- A payload that fits 64 bits is read back. -/
theorem takePayload_ofPayload {payload : Payload}
    (fits : ∀ value, payload = .number value → Text.NumeralRange.int64.fit value = .ok value) :
    takePayload (ofPayload payload).reading = .ok payload := by
  cases payload with
  | number value =>
    have inside := fits value rfl
    simp only [ofPayload, Value.reading, takePayload, firstFault, Json.refuseFault, ok_bind,
      payload?, inside]
  | text value => rfl
  | items names =>
    have faultless : firstFaultOfItems (Json.itemReadings (names.map .string)) = none := by
      induction names with
      | nil => rfl
      | cons name names ih =>
        rw [List.map_cons, Json.itemReadings, firstFaultOfItems, ih]
        · rfl
        · intro value same
          cases same
    have strings : strings? (Json.itemReadings (names.map .string)) = some names := by
      clear fits faultless
      induction names with
      | nil => rfl
      | cons name names ih =>
        rw [List.map_cons, Json.itemReadings, Value.reading, strings?, ih]
        rfl
    simp only [ofPayload, Value.reading, takePayload, firstFault, faultless, Json.ListEnd.next?,
      Option.or_none, Json.refuseFault, ok_bind, payload?, strings, Option.map_some]

theorem takeEntry_single {tag : String} {payload : Payload}
    (kept : takePayload (ofPayload payload).reading = .ok payload) :
    takeEntry (ofEntry (.single tag payload)).reading = .ok (.single tag payload) := by
  have taken := map_object takePayload (fun entry : String × Payload => entry.1) (·.2)
    (fun entry => ofPayload entry.2) [(tag, payload)]
    (fun entry member => by rw [List.mem_singleton.mp member]; exact kept)
  unfold takeEntry
  exact congrArg (· >>= fun written => .ok (TaggedEntry.ofWritten written)) taken

/-- An action is read back from its value. -/
theorem takeAction_ofAction {action : Action} (valid : action.Valid) :
    takeAction (ofAction action).reading = .ok action := by
  have entry : takeEntry (ofAction action).reading = .ok action.toEntry :=
    takeEntry_single (takePayload_ofPayload fun value same => by cases same)
  rw [takeAction, entry, ok_bind, Action.ofEntry_toEntry valid]
  rfl

/-- The payload of a goal fits 64 bits. -/
theorem fit_of_goal {goal : Goal} (shaped : goal.Shaped) {tag : String} {payload : Payload}
    (written : goal.toEntry = .single tag payload) (value : Int)
    (number : payload = .number value) : Text.NumeralRange.int64.fit value = .ok value := by
  subst number
  cases goal with
  | reach counter minimum =>
    have most : minimum ≤ 4294967295 := shaped
    cases written
    rw [Text.NumeralRange.fit_eq_ok_iff]
    refine ⟨rfl, ?_, ?_⟩ <;> simp only [Text.NumeralRange.int64] <;> omega
  | carry items => cases written

/-- What is read of a goal's value is the goal's written form. -/
theorem takeGoal_ofGoal_eq {goal : Goal} (shaped : goal.Shaped) :
    takeGoal (ofGoal goal).reading = meaning (Goal.ofEntry goal.toEntry) := by
  rcases goal.exists_toEntry_eq with ⟨tag, payload, written⟩
  have entry : takeEntry (ofGoal goal).reading = .ok goal.toEntry := by
    rw [ofGoal, written]
    exact takeEntry_single (takePayload_ofPayload (fit_of_goal shaped written))
  rw [takeGoal, entry, ok_bind]

/-- A goal is read back from its value. -/
theorem takeGoal_ofGoal {goal : Goal} (valid : goal.Valid) :
    takeGoal (ofGoal goal).reading = .ok goal := by
  rw [takeGoal_ofGoal_eq valid.shaped, Goal.ofEntry_toEntry valid]
  rfl

/-- A goal is read back only if it follows its rule. -/
theorem valid_of_takeGoal_ofGoal {goal again : Goal} (shaped : goal.Shaped)
    (taken : takeGoal (ofGoal goal).reading = .ok again) : goal.Valid := by
  rw [takeGoal_ofGoal_eq shaped] at taken
  cases goal with
  | reach counter minimum =>
    have read : Goal.ofEntry (Goal.reach counter minimum).toEntry =
        Goal.ofPayload (.counter counter) (.number minimum) := by
      cases counter <;> rfl
    rw [read, Goal.ofPayload, Payload.asInteger, ok_bind] at taken
    split at taken
    · next inside =>
      rcases Rule.counter_eq_ok_iff.mp inside with ⟨same, admitted⟩
      cases Int.natCast_inj.mp same
      exact admitted
    · cases taken
  | carry items =>
    have read : Goal.ofEntry (Goal.carry items).toEntry =
        Goal.ofPayload .inventory (.items items) := rfl
    rw [read, Goal.ofPayload, Payload.asItems, ok_bind] at taken
    split at taken
    · next accepted => exact ⟨Goal.checkItems_eq_ok_iff.mp accepted, shaped⟩
    · cases taken

/-! ## Stories -/

theorem takeMood_ofMood (mood : Mood) : takeMood (ofMood mood).reading = .ok mood := by
  cases mood <;> rfl

/-- A link is read back from its value. -/
theorem takeLink_ofLink {link : Link} (wellFormed : link.WellFormed) :
    takeLink (ofLink link).reading = .ok link := by
  have actions := list_array takeAction ofAction link.actions
    fun action member => takeAction_ofAction (wellFormed.actions action member)
  have filled : Json.Decode.Listing.putAll LinkFields.put
      (Json.memberReadings
        [("text", .string link.text), ("ref", .string link.reference),
          ("actions", .array (link.actions.map ofAction))]) {} =
      .ok ⟨some link.text, some link.reference, link.actions⟩ := by
    simp [Json.memberReadings, Json.Decode.Listing.putAll, LinkFields.put, actions]
  rw [takeLink, ofLink, collect_object rfl (by decide) filled]
  simp only [Json.Decode.require_some, ok_bind, Link.create_of_wellFormed wellFormed, obeying]
  rfl

/-- A passage is read back from its value. -/
theorem takePassage_ofPassage {passage : Passage} (wellFormed : passage.WellFormed) :
    takePassage (ofPassage passage).reading = .ok passage := by
  have links := list_array takeLink ofLink passage.links
    fun link member => takeLink_ofLink (wellFormed.links link member)
  have filled : Json.Decode.Listing.putAll PassageFields.put
      (Json.memberReadings
        [("title", .string passage.title), ("content", .string passage.content),
          ("mood", ofMood passage.mood), ("singleVisitOnly", .bool passage.singleVisit),
          ("links", .array (passage.links.map ofLink))]) {} =
      .ok ⟨some passage.title, some passage.content, passage.mood, passage.singleVisit,
        passage.links⟩ := by
    simp [Json.memberReadings, Json.Decode.Listing.putAll, PassageFields.put, links,
      takeMood_ofMood]
  have added := @Passage.addLinks_of_nodup { passage with links := [] } passage.links
    (by simpa using wellFormed.keys)
  rw [takePassage, ofPassage, collect_object rfl (by decide) filled]
  simp only [Json.Decode.require_some, ok_bind, Passage.create_of_wellFormed wellFormed, obeying,
    added, List.nil_append]

/-- Passages that are filed under their titles, in order, are all stored. -/
theorem addFiled_of_ascending {story : Story} (keyed : story.KeyedByTitle)
    {passages : List Passage} (apart : ∀ passage ∈ passages, passage.title ≠ story.opening.title)
    (ordered : Ascending Passage.title (story.stored ++ passages)) :
    addFiled story (passages.map fun passage => (passage.title, passage)) =
      .ok { story with filed := Story.filing (story.stored ++ passages) } := by
  induction passages generalizing story with
  | nil =>
    rw [List.append_nil, ← keyed.filed_eq]
    rfl
  | cons passage passages ih =>
    have above : ∀ other ∈ story.stored, other.title < passage.title :=
      fun other member => (List.pairwise_append.mp ordered).2.2 other member passage
        List.mem_cons_self
    have added := Story.add?_of_above keyed (apart passage List.mem_cons_self) above
    have rest := ih (Story.keyedByTitle_of_add? keyed added)
      (fun other member => apart other (List.mem_cons_of_mem passage member))
      (by simpa only [Story.stored_filing, List.append_assoc, List.singleton_append] using ordered)
    rw [List.map_cons, addFiled, if_neg (not_not_intro rfl), added]
    simp only [rest, Story.stored_filing, List.append_assoc, List.singleton_append]

/-- A well-formed story is made of its own fields. -/
theorem storyOfFields_of_wellFormed {story : Story} (wellFormed : story.WellFormed) :
    storyOfFields story.title story.opening
      (story.stored.map fun passage => (passage.title, passage)) = .ok story := by
  have filed : Ascending (·.1) (story.stored.map fun passage => (passage.title, passage)) :=
    List.pairwise_map.mpr wellFormed.ordered
  have created : Story.create story.title story.opening = .ok { story with filed := [] } := by
    rw [Story.create, wellFormed.title, ok_bind]
  have begun : Story.KeyedByTitle { story with filed := [] } := List.forall_mem_nil _
  have all := addFiled_of_ascending begun wellFormed.openingApart wellFormed.ordered
  rw [storyOfFields, created, ok_bind, ascendingBy_eq_self _ filed, all, Story.stored,
    List.map_nil, List.nil_append, ← wellFormed.keyed.filed_eq]

/-- The fields of a story are read back from its value.  What is made of them, and
whether that is accepted, does not matter here. -/
theorem takeStoryWith_ofStory_fields {story : Story}
    (wellFormed : ∀ passage ∈ story.passages, passage.WellFormed)
    (accept : Except Violation Story → Except Problem Story) :
    takeStoryWith accept (ofStory story).reading =
      accept (storyOfFields story.title story.opening
        (story.stored.map fun passage => (passage.title, passage))) := by
  have opening := takePassage_ofPassage (wellFormed story.opening List.mem_cons_self)
  have stored := map_object takePassage Passage.title id ofPassage story.stored
    fun passage member =>
      takePassage_ofPassage (wellFormed passage (List.mem_cons_of_mem _ member))
  have filled : Json.Decode.Listing.putAll StoryFields.put
      (Json.memberReadings
        [("title", .string story.title), ("openingPassage", ofPassage story.opening),
          ("passages",
            .object (story.stored.map fun passage => (passage.title, ofPassage passage)))]) {} =
      .ok ⟨some story.title, some story.opening,
        story.stored.map fun passage => (passage.title, passage)⟩ := by
    simp [Json.memberReadings, Json.Decode.Listing.putAll, StoryFields.put, opening, stored]
  rw [takeStoryWith, ofStory, collect_object rfl (by decide) filled]
  simp only [Json.Decode.require_some, ok_bind]

/-- A story is read back from its value, however the story as a whole is
accepted. -/
theorem takeStoryWith_ofStory {story : Story} (wellFormed : story.WellFormed)
    (accept : Except Violation Story → Except Problem Story) :
    takeStoryWith accept (ofStory story).reading = accept (.ok story) := by
  rw [takeStoryWith_ofStory_fields wellFormed.passages, storyOfFields_of_wellFormed wellFormed]

/-! ## Games and snapshots -/

/-- Items that follow their rule are all taken as long as there is room. -/
theorem takeAll_of_room {player : Player} {items : List String}
    (accepted : ∀ item ∈ items, Rule.item item = .ok ())
    (room : (player.inventory ++ items).length ≤ Limits.inventory) :
    player.takeAll items = .ok { player with inventory := player.inventory ++ items } := by
  induction items generalizing player with
  | nil => rw [List.append_nil]; rfl
  | cons item items ih =>
    have space : player.inventory.length < Limits.inventory := by
      rw [List.length_append, List.length_cons] at room
      omega
    have taken : player.take item =
        .ok { player with inventory := player.inventory ++ [item] } := by
      rw [Player.take, accepted item List.mem_cons_self, ok_bind, if_pos space]
    have rest := @ih { player with inventory := player.inventory ++ [item] }
      (fun other member => accepted other (List.mem_cons_of_mem item member))
      (by simpa only [List.append_assoc, List.singleton_append] using room)
    rw [Player.takeAll, taken, ok_bind, rest]
    simp only [List.append_assoc, List.singleton_append]

/-- A valid player is made of its own fields. -/
theorem create_of_valid {player : Player} (valid : player.Valid) :
    (do
      let made ← Player.create player.name player.health player.score player.gold
      made.takeAll player.inventory) = .ok player := by
  have health : Rule.counter "health" Limits.health player.health = .ok player.health :=
    Rule.counter_eq_ok_iff.mpr ⟨rfl, valid.counters .health⟩
  have score : Rule.counter "score" Limits.score player.score = .ok player.score :=
    Rule.counter_eq_ok_iff.mpr ⟨rfl, valid.counters .score⟩
  have gold : Rule.counter "gold" Limits.gold player.gold = .ok player.gold :=
    Rule.counter_eq_ok_iff.mpr ⟨rfl, valid.counters .gold⟩
  have created : Player.create player.name player.health player.score player.gold =
      .ok { player with inventory := [] } := by
    rw [Player.create, valid.name, ok_bind, health, ok_bind, score, ok_bind, gold, ok_bind]
  rw [created, ok_bind, takeAll_of_room valid.items (by rw [List.nil_append]; exact valid.room),
    List.nil_append]

/-- A counter that is in its range fits 32 bits. -/
theorem count_le_greatest32 {player : Player} (valid : player.Valid) (counter : Counter) :
    player.count counter ≤ Json.Decode.greatest32 :=
  Counter.le_greatest32 (valid.counters counter)

/-- A player is read back from its value. -/
theorem takePlayer_ofPlayer {player : Player} (valid : player.Valid) :
    takePlayer (ofPlayer player).reading = .ok player := by
  have health := Json.Decode.word32_integer (ρ := Refusal) (count_le_greatest32 valid .health)
  have score := Json.Decode.word32_integer (ρ := Refusal) (count_le_greatest32 valid .score)
  have gold := Json.Decode.word32_integer (ρ := Refusal) (count_le_greatest32 valid .gold)
  have filled : Json.Decode.Listing.putAll PlayerFields.put
      (Json.memberReadings
        [("name", .string player.name), ("health", .integer player.health),
          ("score", .integer player.score), ("gold", .integer player.gold),
          ("inventory", .array (player.inventory.map .string))]) {} =
      .ok ⟨some player.name, some player.health, some player.score, some player.gold,
        player.inventory⟩ := by
    simp only [Player.count] at health score gold
    simp [Json.memberReadings, Json.Decode.Listing.putAll, PlayerFields.put, health, score, gold,
      list_strings]
  rw [takePlayer, ofPlayer, collect_object rfl (by decide) filled]
  simp only [Json.Decode.require_some, ok_bind, create_of_valid valid, obeying]

/-- A game is read back from its value. -/
theorem takeGame_ofGame {game : Game} (wellFormed : game.WellFormed) :
    takeGame (ofGame game).reading = .ok game := by
  have player := takePlayer_ofPlayer wellFormed.player
  have story : takeStory (ofStory game.story).reading = .ok game.story :=
    takeStoryWith_ofStory wellFormed.story obeying
  have goals := list_array takeGoal ofGoal game.goals
    fun goal member => takeGoal_ofGoal (wellFormed.goals goal member)
  have filled : Json.Decode.Listing.putAll GameFields.put
      (Json.memberReadings
        [("player", ofPlayer game.player), ("story", ofStory game.story),
          ("goals", .array (game.goals.map ofGoal))]) {} =
      .ok ⟨some game.player, some game.story, some game.goals⟩ := by
    simp [Json.memberReadings, Json.Decode.Listing.putAll, GameFields.put, player, story, goals]
  rw [takeGame, ofGame, collect_object rfl (by decide) filled]
  rfl

/-- A game is read back only if its goals follow their rules. -/
theorem valid_of_takeGame_ofGame {game again : Game}
    (shaped : ∀ goal ∈ game.goals, goal.Shaped)
    (taken : takeGame (ofGame game).reading = .ok again) : ∀ goal ∈ game.goals, goal.Valid := by
  rw [takeGame, ofGame, collect_written rfl (by decide)] at taken
  rcases bind_eq_ok_iff.mp taken with ⟨fields, filled, -⟩
  rcases bind_eq_ok_iff.mp filled with ⟨withPlayer, -, filled⟩
  rcases bind_eq_ok_iff.mp filled with ⟨withStory, -, filled⟩
  rcases bind_eq_ok_iff.mp filled with ⟨withGoals, put, -⟩
  rcases bind_eq_ok_iff.mp put with ⟨goals, takeGoals, -⟩
  intro goal member
  rcases exists_of_list_array takeGoals goal member with ⟨read, taken⟩
  exact valid_of_takeGoal_ofGoal (shaped goal member) taken

/-- A snapshot is read back from its value. -/
theorem takeSnapshot_ofSnapshot {kept : Snapshot} (wellFormed : kept.game.WellFormed) :
    takeSnapshot (ofSnapshot kept).reading = .ok kept := by
  have game := takeGame_ofGame wellFormed
  have filled : Json.Decode.Listing.putAll SessionFields.put
      (Json.memberReadings
        [("game", ofGame kept.game), ("passage", .string kept.passage),
          ("visitedPassages", .array (kept.visited.map .string))]) {} =
      .ok ⟨some kept.game, some kept.passage, some kept.visited⟩ := by
    simp [Json.memberReadings, Json.Decode.Listing.putAll, SessionFields.put, game, list_strings]
  rw [takeSnapshot, ofSnapshot, collect_object rfl (by decide) filled]
  rfl

/-- A snapshot is read back only if the goals of its game follow their rules. -/
theorem valid_of_takeSnapshot_ofSnapshot {kept again : Snapshot}
    (shaped : ∀ goal ∈ kept.game.goals, goal.Shaped)
    (taken : takeSnapshot (ofSnapshot kept).reading = .ok again) :
    ∀ goal ∈ kept.game.goals, goal.Valid := by
  rw [takeSnapshot, ofSnapshot, collect_written rfl (by decide)] at taken
  rcases bind_eq_ok_iff.mp taken with ⟨fields, filled, -⟩
  rcases bind_eq_ok_iff.mp filled with ⟨withGame, put, -⟩
  rcases bind_eq_ok_iff.mp put with ⟨game, takeGame, -⟩
  exact valid_of_takeGame_ofGame shaped takeGame

/-! ## Depths -/

theorem fits_array {α : Type} {encode : α → Value} (values : List α) {depth : Nat}
    (fit : ∀ value ∈ values, (encode value).Fits depth) :
    (Value.array (values.map encode)).Fits (depth + 1) := by
  refine .array fun item member => ?_
  rcases List.mem_map.mp member with ⟨value, listed, rfl⟩
  exact fit value listed

theorem fits_strings (values : List String) (depth : Nat) :
    (Value.array (values.map .string)).Fits (depth + 1) :=
  fits_array values fun value _ => .string value

/-- A number of 64 bits keeps its value in a document. -/
theorem whole_of_fit {value : Int} (fits : Text.NumeralRange.int64.fit value = .ok value) :
    Json.Whole value := by
  have bounds := (Text.NumeralRange.fit_eq_ok_iff.mp fits).2
  have power : Number.twoTo 63 = 9223372036854775808 := by decide
  simp only [Text.NumeralRange.int64] at bounds
  rw [Json.Whole, power, Json.greatestWord]
  omega

theorem fits_ofEntry (tag : String) (payload : Payload)
    (fits : ∀ value, payload = .number value → Text.NumeralRange.int64.fit value = .ok value)
    (depth : Nat) : (ofEntry (.single tag payload)).Fits (depth + 2) := by
  have content : (ofPayload payload).Fits (depth + 1) := by
    cases payload with
    | number value => exact .integer (whole_of_fit (fits value rfl))
    | text value => exact .string value
    | items names => exact fits_strings names depth
  exact .object fun member listed => by rw [List.mem_singleton.mp listed]; exact content

theorem fits_ofAction (action : Action) (depth : Nat) : (ofAction action).Fits (depth + 2) :=
  fits_ofEntry _ (.text action.payloadText) (fun value same => by cases same) depth

theorem fits_ofGoal {goal : Goal} (shaped : goal.Shaped) (depth : Nat) :
    (ofGoal goal).Fits (depth + 2) := by
  rcases goal.exists_toEntry_eq with ⟨tag, payload, written⟩
  rw [ofGoal, written]
  exact fits_ofEntry tag payload (fit_of_goal shaped written) depth

theorem fits_ofLink (link : Link) (depth : Nat) : (ofLink link).Fits (depth + 4) := by
  have actions := fits_array link.actions fun action _ => fits_ofAction action depth
  refine .object ?_
  simp only [List.forall_mem_cons]
  exact ⟨.string _, .string _, actions, List.forall_mem_nil _⟩

theorem fits_ofPassage (passage : Passage) (depth : Nat) :
    (ofPassage passage).Fits (depth + 6) := by
  have links := fits_array passage.links fun link _ => fits_ofLink link depth
  refine .object ?_
  simp only [List.forall_mem_cons]
  exact ⟨.string _, .string _, .string _, .bool _, links, List.forall_mem_nil _⟩

theorem fits_ofStory (story : Story) (depth : Nat) : (ofStory story).Fits (depth + 8) := by
  have stored : (Value.object (story.stored.map fun passage =>
      (passage.title, ofPassage passage))).Fits (depth + 7) := by
    refine .object fun member listed => ?_
    rcases List.mem_map.mp listed with ⟨passage, _, rfl⟩
    exact fits_ofPassage passage depth
  refine .object ?_
  simp only [List.forall_mem_cons]
  exact ⟨.string _, fits_ofPassage story.opening (depth + 1), stored, List.forall_mem_nil _⟩

theorem fits_ofPlayer {player : Player} (valid : player.Valid) (depth : Nat) :
    (ofPlayer player).Fits (depth + 2) := by
  have whole (counter : Counter) : Json.Whole (player.count counter) := by
    have small := count_le_greatest32 valid counter
    rw [Json.Decode.greatest32] at small
    rw [Json.Whole, Json.greatestWord]
    omega
  refine .object ?_
  simp only [List.forall_mem_cons]
  exact ⟨.string _, .integer (whole .health), .integer (whole .score), .integer (whole .gold),
    fits_strings player.inventory depth, List.forall_mem_nil _⟩

theorem fits_ofGame {game : Game} (formed : game.Formed) (depth : Nat) :
    (ofGame game).Fits (depth + 9) := by
  have goals := fits_array game.goals fun goal member =>
    fits_ofGoal (formed.goals goal member) (depth + 5)
  refine .object ?_
  simp only [List.forall_mem_cons]
  exact ⟨fits_ofPlayer formed.player (depth + 6), fits_ofStory game.story depth, goals,
    List.forall_mem_nil _⟩

theorem fits_ofSnapshot {kept : Snapshot} (formed : kept.game.Formed) (depth : Nat) :
    (ofSnapshot kept).Fits (depth + 10) := by
  refine .object ?_
  simp only [List.forall_mem_cons]
  exact ⟨fits_ofGame formed depth, .string _, fits_strings kept.visited (depth + 8),
    List.forall_mem_nil _⟩

end Document

/-- What is kept of a session is read back from the session's text. -/
theorem Session.decode_toJson {session : Session} (wellFormed : session.game.WellFormed) :
    Json.decode Document.takeSnapshot session.toJson = .ok session.snapshot := by
  have fits : (Document.ofSnapshot session.snapshot).Fits Json.greatestDepth :=
    Document.fits_ofSnapshot wellFormed.formed 117
  rw [Session.toJson, Json.decode_text Document.takeSnapshot fits]
  exact Document.takeSnapshot_ofSnapshot wellFormed

/-- The text of a session can be read only if the goals of its game follow their rules. -/
theorem Session.valid_of_decode_toJson {session : Session} (formed : session.game.Formed)
    {kept : Snapshot} (read : Json.decode Document.takeSnapshot session.toJson = .ok kept) :
    ∀ goal ∈ session.game.goals, goal.Valid := by
  have fits : (Document.ofSnapshot session.snapshot).Fits Json.greatestDepth :=
    Document.fits_ofSnapshot formed 117
  rw [Session.toJson, Json.decode_text Document.takeSnapshot fits] at read
  exact Document.valid_of_takeSnapshot_ofSnapshot formed.goals read

/-- A story is read back from its text. -/
theorem Story.decode_toJson {story : Story} (wellFormed : story.WellFormed) :
    Json.decode Document.takeWholeStory story.toJson = .ok story := by
  have fits : (Document.ofStory story).Fits Json.greatestDepth := Document.fits_ofStory story 119
  rw [Story.toJson, Json.decode_text Document.takeWholeStory fits]
  exact Document.takeStoryWith_ofStory wellFormed _

/-- Whatever characters the rules admit, a well-formed story is read back from
its document: every field, the order of the links, and every list of actions. -/
theorem ofJson_toJson_story (story : Story) (wellFormed : story.WellFormed) :
    ∃ read, Story.ofJson story.toJson = .ok read ∧ read.identical story = true ∧ read = story := by
  refine ⟨story, ?_, Story.identical_self wellFormed, rfl⟩
  simp only [Story.ofJson, Story.decode_toJson wellFormed]

/-- A story whose texts need escapes in a document, or look like parts of one. -/
def escaped : Story where
  title := "\"quoted\" \\ \u0000\t"
  opening :=
    { title := "\\u0041\u001b"
      content := "\x7b\"title\": null\x7d,\x7f\u2028"
      mood := .tense
      singleVisit := true
      links :=
        [⟨⟨"é\u0008\u000c", "\\\""⟩, [.take "a\\b\"c/d", .change .score (-2147483648)]⟩,
          ⟨⟨"é\u0008\u000c", "😀"⟩, []⟩] }
  filed := Story.filing
    [⟨"\"", "\u0001\u001f", .none, false, []⟩, ⟨"passages", "[", .calm, false, []⟩]

theorem ofJson_toJson_escaped :
    escaped.WellFormed ∧ ∃ read, Story.ofJson escaped.toJson = .ok read ∧
      read.identical escaped = true ∧ read = escaped :=
  ⟨by decide, ofJson_toJson_story escaped (by decide)⟩

end Gamebook
