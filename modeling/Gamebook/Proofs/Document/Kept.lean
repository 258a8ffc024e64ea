import Gamebook.Proofs.Document.Members
import Gamebook.Proofs.Json.Same

namespace Gamebook

/-!
# Nothing that a document writes is ignored

A story that is read from a document is written again with all that the document
has.  Every decoder is shown to keep what it takes: written again, the value is the
same tree, once that has been completed with the defaults of absent fields and its
actions have been put into their plain form.  So a decoder may neither pass over a
member nor take a default where something stands.

A list keeps its items when each item is kept.  For a record it is enough to know
what is put into it under one field, and that this touches no other field: the fields
that are given hold what stands there, and the others what the empty record has.
-/

namespace Json
namespace Decode

variable {ρ α σ : Type}

/-- Says that a value is written as it stood in the reading that it was taken from, once
the reading is changed.  Only readings that are fit for it are spoken of. -/
def Keeps (fit : Reading → Prop) (change : Reading → Reading) (take : Decoder ρ α)
    (encode : α → Value) : Prop :=
  ∀ reading value, fit reading → take reading = .ok value →
    (change reading).Same (encode value).reading

theorem keeps_string : Keeps (ρ := ρ) (fun _ => True) id string .string := by
  intro reading value _ taken
  cases reading with
  | string found =>
    cases taken
    exact .string value
  | _ => cases taken

theorem keeps_bool : Keeps (ρ := ρ) (fun _ => True) id bool .bool := by
  intro reading value _ taken
  cases reading with
  | bool found =>
    cases taken
    exact .bool value
  | _ => cases taken

/-- A list is kept, with its order, when each of its items is. -/
theorem Keeps.list {fit : Reading → Prop} {change : Reading → Reading} {item : Decoder ρ α}
    {encode : α → Value} (kept : Keeps fit change item encode) :
    Keeps (fun reading => ∀ item ∈ reading.items, fit item) (Reading.eachItem change)
      (list item) fun values => .array (values.map encode) := by
  have ofItems : ∀ {readings values}, (∀ reading ∈ readings, fit reading) →
      items item readings = .ok values →
        List.Forall₂ Reading.Same (readings.map change) (itemReadings (values.map encode)) := by
    intro readings
    induction readings with
    | nil =>
      rintro values - ⟨⟩
      exact .nil
    | cons reading readings ih =>
      intro values fits taken
      rcases List.forall_mem_cons.mp fits with ⟨firstFits, otherFits⟩
      rcases bind_eq_ok_iff.mp taken with ⟨first, takeFirst, rest⟩
      rcases bind_eq_ok_iff.mp rest with ⟨others, takeOthers, same⟩
      cases same
      exact .cons (kept reading first firstFits takeFirst) (ih otherFits takeOthers)
  intro reading values fits taken
  cases reading with
  | array readings ending =>
    rcases bind_eq_ok_iff.mp taken with ⟨found, takeItems, rest⟩
    rcases seq_eq_ok_iff.mp rest with ⟨noFault, same⟩
    cases same
    cases ending with
    | closed => exact .array (ofItems fits takeItems)
    | faulty next last => cases noFault
  | _ => cases taken

/-! ## Records -/

/-- Says that the fields of a record are kept.  A record that is being collected has
a value to be written for a field, or none as long as a field that has no default is
absent. -/
structure KeepsFields (shape : Shape) (fit : String → Reading → Prop)
    (change : String → Reading → Reading) (defaults : List (String × Reading))
    (put : String → Reading → σ → Except (Problem ρ) σ) (empty : σ)
    (written : String → σ → Option Value) : Prop where
  distinct : shape.fields.Nodup
  distinctDefaults : (defaults.map (·.1)).Nodup
  knownDefaults : ∀ key ∈ defaults.map (·.1), key ∈ shape.fields
  /-- What is put under a field is written as it stands there. -/
  sets : ∀ field ∈ shape.fields, ∀ reading before after, fit field reading →
    put field reading before = .ok after →
      ∃ value, written field after = some value ∧ (change field reading).Same value.reading
  /-- It touches no other field. -/
  leaves : ∀ other ∈ shape.fields, ∀ field, other ≠ field → ∀ reading before after,
    put other reading before = .ok after → written field after = written field before
  /-- What is written for an empty record are its defaults. -/
  starts : ∀ field ∈ shape.fields, ∀ value, written field empty = some value →
    ∃ reading, (field, reading) ∈ defaults ∧ reading.Same value.reading

/-- A record whose fields are kept is kept as a whole.  It is written with every field
of its shape. -/
theorem KeepsFields.same {shape : Shape} {fit : String → Reading → Prop}
    {change : String → Reading → Reading} {defaults : List (String × Reading)}
    {put : String → Reading → σ → Except (Problem ρ) σ} {empty state : σ}
    {written : String → σ → Option Value}
    (kept : KeepsFields shape fit change defaults put empty written)
    {members : List (String × Reading)} {fault : Option Fault}
    (fits : ∀ member ∈ members, fit member.1 member.2) {found : Listing ρ}
    (listed : listing shape (.object members fault) = .ok found)
    (collected : found.collect empty put = .ok state) {content : List (String × Value)}
    (fields : content.map (·.1) = shape.fields)
    (full : ∀ member ∈ content, written member.1 state = some member.2) :
    (Reading.completed change defaults (.object members fault)).Same
      (Value.object content).reading := by
  rcases putAll_of_collect listed collected with ⟨rfl, known, distinct, filled⟩
  have apart (field : String) : ∀ other ∈ members.map (·.1), other ≠ field →
      ∀ value before after, put other value before = .ok after →
        written field after = written field before :=
    fun other given => kept.leaves other (known other given) field
  have sameKeys := (keys_memberReadings content).trans fields
  have isWritten : ∀ {key other}, (key, other) ∈ memberReadings content →
      ∃ value, written key state = some value ∧ value.reading = other := by
    intro key other listed
    rw [memberReadings_eq_map] at listed
    rcases List.mem_map.mp listed with ⟨⟨_, value⟩, inContent, same⟩
    cases same
    exact ⟨value, full _ inContent, rfl⟩
  rw [Value.reading]
  apply Reading.same_completed distinct kept.distinctDefaults
  · exact sameKeys ▸ kept.distinct
  · exact sameKeys ▸ known
  · exact sameKeys ▸ kept.knownDefaults
  · -- What is put under a key that is given stays there.
    intro key reading other given inContent
    rcases isWritten inContent with ⟨value, isValue, rfl⟩
    rcases Listing.exists_put_of_mem (apart key) distinct given filled with
      ⟨before, after, put, stays⟩
    rcases kept.sets key (known key (List.mem_map_of_mem given)) reading before after
      (fits _ given) put with ⟨value', isSet, same⟩
    cases isValue.symm.trans (stays.trans isSet)
    exact same
  · -- Under a key that is absent, the record has what the empty one has.
    intro key other inContent absent
    rcases isWritten inContent with ⟨value, isValue, rfl⟩
    have start := Listing.part_of_putAll_of_absent (apart key) absent filled
    have inShape : key ∈ shape.fields := sameKeys ▸ List.mem_map_of_mem inContent
    exact kept.starts key inShape value (start ▸ isValue)

end Decode
end Json

namespace Document

open Json (Value Reading)
open Json.Decode (Keeps KeepsFields keeps_string keeps_bool)

/-! ## Actions -/

/-- The canonical tag of an action.  There is one tag that has another name. -/
def plainTag (tag : String) : String := if tag = "item" then "inventoryChange" else tag

/-- The payload under a canonical tag as text.  An item is named by its text, and an
amount is written in plain decimal, also where it stands as a text that spells it. -/
def plainPayload (tag : String) : Reading → Reading
  | .number (.whole value) => .string (Text.decimal value)
  | .string text =>
    if tag = "inventoryChange" then .string text
    else
      match Text.readNumeral .int64 (Text.trim text.toList) with
      | .ok value => .string (Text.decimal value)
      | .error _ => .string text
  | payload => payload

/-- An action with its canonical tag and its payload as text. -/
def plainAction : Reading → Reading
  | .object [(tag, payload)] fault =>
    .object [(plainTag tag, plainPayload (plainTag tag) payload)] fault
  | reading => reading

theorem plainTag_of_mem_tags {tag : String} {aspect : Aspect} (isTag : tag ∈ aspect.tags) :
    plainTag tag = aspect.actionTag := by
  have each : ∀ tag ∈ aspect.tags, plainTag tag = aspect.actionTag := by
    rcases aspect with (_ | _ | _) | _ <;> decide
  exact each tag isTag

/-- A payload is a number, a text or a list. -/
theorem cases_of_takePayload {reading : Reading} {payload : Payload}
    (taken : takePayload reading = .ok payload) :
    (∃ value, reading = .number (.whole value) ∧ payload = .number value) ∨
      (∃ text, reading = .string text ∧ payload = .text text) ∨
        ∃ names, payload = .items names := by
  rcases seq_eq_ok_iff.mp taken with ⟨-, rest⟩
  split at rest
  · next found isPayload =>
    cases rest
    unfold payload? at isPayload
    split at isPayload
    · next value =>
      split at isPayload
      · next fitted fits =>
        cases isPayload
        exact .inl ⟨value, rfl, congrArg _ (Text.NumeralRange.fit_eq_ok_iff.mp fits).1.symm⟩
      · cases isPayload
    · next text =>
      cases isPayload
      exact .inr (.inl ⟨text, rfl, rfl⟩)
    · next items ending =>
      rcases Option.map_eq_some_iff.mp isPayload with ⟨names, -, rfl⟩
      exact .inr (.inr ⟨names, rfl⟩)
    · cases isPayload
  · cases rest

/-- What an action makes of its payload is written as the payload's plain text. -/
theorem plainPayload_of_ofPayload {reading : Reading} {payload : Payload}
    (taken : takePayload reading = .ok payload) {aspect : Aspect} {action : Action}
    (read : Action.ofPayload aspect payload = .ok action) :
    action.aspect = aspect ∧
      plainPayload aspect.actionTag reading = .string action.payloadText := by
  refine ⟨Action.aspect_of_ofPayload read, ?_⟩
  cases aspect with
  | counter counter =>
    have notItem : (Aspect.counter counter).actionTag ≠ "inventoryChange" := by
      cases counter <;> decide
    rcases Action.ofPayload_counter_eq_ok_iff.mp read with ⟨amount, isAmount, -, rfl⟩
    rcases cases_of_takePayload taken with ⟨value, rfl, rfl⟩ | ⟨text, rfl, rfl⟩ | ⟨names, rfl⟩
    · cases isAmount
      rfl
    · rw [Payload.asInteger] at isAmount
      split at isAmount
      · next value spelled =>
        cases isAmount
        rw [plainPayload, if_neg notItem, spelled]
        rfl
      · cases isAmount
    · cases isAmount
  | inventory =>
    rcases Action.ofPayload_inventory_eq_ok_iff.mp read with ⟨item, isItem, -, rfl⟩
    rcases cases_of_takePayload taken with ⟨value, rfl, rfl⟩ | ⟨text, rfl, rfl⟩ | ⟨names, rfl⟩
    · cases isItem
      rfl
    · cases isItem
      rfl
    · cases isItem

/-- An entry that has one tag, and repeats no key, is an object with one member. -/
theorem eq_single_of_takeEntry {reading : Reading} (once : reading.KeysOnce) {entry : TaggedEntry}
    (taken : takeEntry reading = .ok entry) {family tag : String} {payload : Payload}
    (hasOne : entry.only family = .ok (tag, payload)) :
    ∃ found, reading = .object [(tag, found)] none ∧ takePayload found = .ok payload := by
  rcases bind_eq_ok_iff.mp taken with ⟨written, isMap, same⟩
  cases same
  cases once with
  | @object members distinct each fault =>
    rcases bind_eq_ok_iff.mp isMap with ⟨values, takeMembers, rest⟩
    rcases seq_eq_ok_iff.mp rest with ⟨noFault, same⟩
    cases same
    cases Json.refuseFault_eq_ok_iff.mp noFault
    have sameKeys := Json.Decode.keys_of_members takeMembers
    have count : (TaggedEntry.ofWritten written).members.length = members.length := by
      rw [TaggedEntry.ofWritten, length_ascendingBy, sameKeys, distinct.dedup, List.length_map]
    unfold TaggedEntry.only at hasOne
    split at hasOne
    · next member isSingle =>
      rw [isSingle] at count
      rcases List.length_eq_one_iff.mp count.symm with ⟨⟨key, found⟩, rfl⟩
      rcases bind_eq_ok_iff.mp takeMembers with ⟨value, takeFound, same⟩
      cases same
      cases isSingle
      cases hasOne
      exact ⟨found, rfl, takeFound⟩
    · cases hasOne
  | _ => cases isMap

theorem meaning_eq_ok_iff {α : Type} {result : Except TagError α} {value : α} :
    meaning result = .ok value ↔ result = .ok value := by
  cases result with
  | ok found => rw [meaning, Except.ok.injEq, Except.ok.injEq]
  | error error => exact iff_of_false nofun nofun

theorem keeps_action : Keeps Reading.KeysOnce plainAction takeAction ofAction := by
  intro reading action once taken
  rcases bind_eq_ok_iff.mp taken with ⟨entry, takeEntry, means⟩
  rcases bind_eq_ok_iff.mp (meaning_eq_ok_iff.mp means) with ⟨⟨tag, payload⟩, hasOne, read⟩
  rcases eq_single_of_takeEntry once takeEntry hasOne with ⟨found, rfl, takeFound⟩
  rcases Action.ofTag_eq_ok_iff.mp read with ⟨aspect, isTag, read⟩
  rcases plainPayload_of_ofPayload takeFound read with ⟨rfl, plain⟩
  have isPlain : plainAction (.object [(tag, found)] none) =
      .object [(action.aspect.actionTag, .string action.payloadText)] none := by
    rw [plainAction, plainTag_of_mem_tags isTag, plain]
  rw [isPlain]
  exact .single _ (.string _)

example : plainAction (.object [("item", .number (.whole 7))] none) =
    .object [("inventoryChange", .string "7")] none := rfl

/-! ## Links -/

/-- What becomes of the values in a link. -/
def plainInLink (field : String) : Reading → Reading :=
  if field = "actions" then .eachItem plainAction else id

def linkDefaults : List (String × Reading) := [("actions", .array [] .closed)]

/-- A link with its actions in plain form, and with none when they are absent. -/
def plainLink : Reading → Reading := .completed plainInLink linkDefaults

/-- What is written for a field of a link. -/
def LinkFields.value? (field : String) (link : LinkFields) : Option Value :=
  if field = "text" then link.text.map .string
  else if field = "ref" then link.reference.map .string
  else if field = "actions" then some (.array (link.actions.map ofAction))
  else none

theorem keepsFields_link :
    KeepsFields linkShape (fun _ reading => reading.KeysOnce) plainInLink linkDefaults
      LinkFields.put {} LinkFields.value? where
  distinct := by decide
  distinctDefaults := by decide
  knownDefaults := by decide
  sets := by
    intro field known reading before after once put
    simp only [linkShape, List.mem_cons, List.not_mem_nil, or_false] at known
    rcases known with rfl | rfl | rfl
    all_goals
      rcases bind_eq_ok_iff.mp put with ⟨value, take, same⟩
      cases same
    · exact ⟨_, rfl, keeps_string reading value trivial take⟩
    · exact ⟨_, rfl, keeps_string reading value trivial take⟩
    · exact ⟨_, rfl, keeps_action.list reading value once.items take⟩
  leaves := by
    intro other known field different reading before after put
    simp only [linkShape, List.mem_cons, List.not_mem_nil, or_false] at known
    rcases known with rfl | rfl | rfl
    all_goals
      rcases bind_eq_ok_iff.mp put with ⟨value, take, same⟩
      cases same
      simp only [LinkFields.value?, if_neg different.symm]
  starts := by
    intro field known value isValue
    simp only [linkShape, List.mem_cons, List.not_mem_nil, or_false] at known
    rcases known with rfl | rfl | rfl
    all_goals cases isValue
    exact ⟨_, List.mem_cons_self, .array .nil⟩

theorem exists_fields_of_takeLink {reading : Reading} {link : Link}
    (taken : takeLink reading = .ok link) :
    ∃ found, Json.Decode.listing linkShape reading = .ok found ∧
      found.collect {} LinkFields.put =
        .ok ⟨some link.text, some link.reference, link.actions⟩ := by
  rcases bind_eq_ok_iff.mp taken with ⟨found, listed, rest⟩
  rcases bind_eq_ok_iff.mp rest with ⟨fields, collected, rest⟩
  rcases bind_eq_ok_iff.mp rest with ⟨text, hasText, rest⟩
  rcases bind_eq_ok_iff.mp rest with ⟨reference, hasReference, rest⟩
  rcases bind_eq_ok_iff.mp rest with ⟨made, create, same⟩
  cases same
  rcases Link.create_eq_ok_iff.mp (obeying_eq_ok_iff.mp create) with ⟨-, -, rfl⟩
  rcases fields with ⟨_, _, actions⟩
  cases Json.Decode.Listing.require_eq_ok hasText
  cases Json.Decode.Listing.require_eq_ok hasReference
  exact ⟨found, listed, collected⟩

theorem keeps_link :
    Keeps (fun reading => reading.KeysOnce ∧ reading.IsObject) plainLink takeLink ofLink := by
  rintro _ link ⟨once, members, fault, rfl⟩ taken
  rcases exists_fields_of_takeLink taken with ⟨found, listed, collected⟩
  refine keepsFields_link.same once.members listed collected rfl ?_
  simp only [List.forall_mem_cons]
  exact ⟨rfl, rfl, rfl, List.forall_mem_nil _⟩

/-! ## Passages -/

/-- Says that a passage and its links are objects, and its mood a string. -/
structure PassageByName (reading : Reading) : Prop where
  isObject : reading.IsObject
  mood : ∀ value, ("mood", value) ∈ reading.members → value.IsString
  links : ∀ value, ("links", value) ∈ reading.members → ∀ link ∈ value.items, link.IsObject

def plainInPassage (field : String) : Reading → Reading :=
  if field = "links" then .eachItem plainLink else id

def passageDefaults : List (String × Reading) :=
  [("mood", .string "NONE"), ("singleVisitOnly", .bool false), ("links", .array [] .closed)]

/-- A passage with its links in plain form, and with the defaults of its fields. -/
def plainPassage : Reading → Reading := .completed plainInPassage passageDefaults

/-- What is written for a field of a passage. -/
def PassageFields.value? (field : String) (passage : PassageFields) : Option Value :=
  if field = "title" then passage.title.map .string
  else if field = "content" then passage.content.map .string
  else if field = "mood" then some (ofMood passage.mood)
  else if field = "singleVisitOnly" then some (.bool passage.singleVisit)
  else if field = "links" then some (.array (passage.links.map ofLink))
  else none

theorem keeps_mood : Keeps Reading.IsString id takeMood ofMood := by
  rintro _ mood ⟨key, rfl⟩ taken
  have taken : moodOfKey key = .ok mood := taken
  unfold moodOfKey at taken
  split at taken
  · next found isMood =>
    cases taken
    have isKey := List.find?_some isMood
    cases of_decide_eq_true isKey
    exact .string mood.key
  · cases taken

theorem keepsFields_passage :
    KeepsFields passageShape
      (fun field reading => reading.KeysOnce ∧ (field = "mood" → reading.IsString) ∧
        (field = "links" → ∀ link ∈ reading.items, link.IsObject))
      plainInPassage passageDefaults PassageFields.put {} PassageFields.value? where
  distinct := by decide
  distinctDefaults := by decide
  knownDefaults := by decide
  sets := by
    rintro field known reading before after ⟨once, isString, areObjects⟩ put
    simp only [passageShape, List.mem_cons, List.not_mem_nil, or_false] at known
    rcases known with rfl | rfl | rfl | rfl | rfl
    all_goals
      rcases bind_eq_ok_iff.mp put with ⟨value, take, same⟩
      cases same
    · exact ⟨_, rfl, keeps_string reading value trivial take⟩
    · exact ⟨_, rfl, keeps_string reading value trivial take⟩
    · exact ⟨_, rfl, keeps_mood reading value (isString rfl) take⟩
    · exact ⟨_, rfl, keeps_bool reading value trivial take⟩
    · refine ⟨_, rfl, keeps_link.list reading value (fun link listed => ?_) take⟩
      exact ⟨once.items link listed, areObjects rfl link listed⟩
  leaves := by
    intro other known field different reading before after put
    simp only [passageShape, List.mem_cons, List.not_mem_nil, or_false] at known
    rcases known with rfl | rfl | rfl | rfl | rfl
    all_goals
      rcases bind_eq_ok_iff.mp put with ⟨value, take, same⟩
      cases same
      simp only [PassageFields.value?, if_neg different.symm]
  starts := by
    intro field known value isValue
    simp only [passageShape, List.mem_cons, List.not_mem_nil, or_false] at known
    rcases known with rfl | rfl | rfl | rfl | rfl
    all_goals cases isValue
    · exact ⟨_, List.mem_cons_self, .string "NONE"⟩
    · exact ⟨_, List.mem_cons_of_mem _ List.mem_cons_self, .bool false⟩
    · exact ⟨_, List.mem_cons_of_mem _ (List.mem_cons_of_mem _ List.mem_cons_self), .array .nil⟩

theorem exists_fields_of_takePassage {reading : Reading} {passage : Passage}
    (taken : takePassage reading = .ok passage) :
    ∃ found, Json.Decode.listing passageShape reading = .ok found ∧
      found.collect {} PassageFields.put =
        .ok ⟨some passage.title, some passage.content, passage.mood, passage.singleVisit,
          passage.links⟩ := by
  rcases bind_eq_ok_iff.mp taken with ⟨found, listed, rest⟩
  rcases bind_eq_ok_iff.mp rest with ⟨fields, collected, rest⟩
  rcases bind_eq_ok_iff.mp rest with ⟨title, hasTitle, rest⟩
  rcases bind_eq_ok_iff.mp rest with ⟨content, hasContent, rest⟩
  rcases bind_eq_ok_iff.mp rest with ⟨made, create, addLinks⟩
  rcases Passage.create_eq_ok_iff.mp (obeying_eq_ok_iff.mp create) with ⟨-, -, rfl⟩
  have added := obeying_eq_ok_iff.mp addLinks
  rcases (Passage.addLinks_eq_ok_iff (by exact .nil)).mp added with ⟨-, rfl⟩
  rcases fields with ⟨_, _, mood, singleVisit, links⟩
  cases Json.Decode.Listing.require_eq_ok hasTitle
  cases Json.Decode.Listing.require_eq_ok hasContent
  exact ⟨found, listed, collected⟩

theorem keeps_passage :
    Keeps (fun reading => reading.KeysOnce ∧ PassageByName reading) plainPassage takePassage
      ofPassage := by
  rintro reading passage ⟨once, byName⟩ taken
  rcases byName.isObject with ⟨members, fault, rfl⟩
  rcases exists_fields_of_takePassage taken with ⟨found, listed, collected⟩
  refine keepsFields_passage.same ?_ listed collected rfl ?_
  · rintro ⟨field, value⟩ member
    refine ⟨once.members _ member, ?_, ?_⟩
    · rintro rfl
      exact byName.mood value member
    · rintro rfl
      exact byName.links value member
  · simp only [List.forall_mem_cons]
    exact ⟨rfl, rfl, rfl, rfl, rfl, List.forall_mem_nil _⟩

/-! ## Stories -/

/-- Says that a story, its passages and their links are objects, and that moods are
strings. -/
structure StoryByName (reading : Reading) : Prop where
  isObject : reading.IsObject
  opening : ∀ value, ("openingPassage", value) ∈ reading.members → PassageByName value
  passages : ∀ value, ("passages", value) ∈ reading.members →
    ∀ member ∈ value.members, PassageByName member.2

def plainInStory (field : String) : Reading → Reading :=
  if field = "openingPassage" then plainPassage
  else if field = "passages" then .completed (fun _ => plainPassage) []
  else id

def storyDefaults : List (String × Reading) := [("passages", .object [] none)]

/-- A story with its passages in plain form, and with no stored passages when they are
absent. -/
def plainStory : Reading → Reading := .completed plainInStory storyDefaults

/-- The object that is written for passages under keys. -/
def ofFiled (passages : List (String × Passage)) : Value :=
  .object ((ascendingBy (·.1) passages).map fun entry => (entry.1, ofPassage entry.2))

/-- What is written for a field of a story. -/
def StoryFields.value? (field : String) (story : StoryFields) : Option Value :=
  if field = "title" then story.title.map .string
  else if field = "openingPassage" then story.opening.map ofPassage
  else if field = "passages" then some (ofFiled story.passages)
  else none

/-- Stored passages are kept, since no key of their object is written twice. -/
theorem keeps_stored :
    Keeps (fun reading => reading.KeysOnce ∧ ∀ member ∈ reading.members, PassageByName member.2)
      (.completed (fun _ => plainPassage) []) (Json.Decode.map takePassage) ofFiled := by
  rintro reading passages ⟨once, byName⟩ taken
  cases once with
  | @object members distinct each fault =>
    rcases bind_eq_ok_iff.mp taken with ⟨values, takeMembers, rest⟩
    rcases seq_eq_ok_iff.mp rest with ⟨noFault, same⟩
    cases same
    cases Json.refuseFault_eq_ok_iff.mp noFault
    have sameKeys := Json.Decode.keys_of_members takeMembers
    have writtenKeys : ((ascendingBy (·.1) passages).map fun entry =>
        (entry.1, (ofPassage entry.2).reading)).map (·.1) =
          (ascendingBy (·.1) passages).map (·.1) := List.map_map
    rw [ofFiled, Value.reading, Json.memberReadings_eq_map, List.map_map]
    refine Reading.same_completed distinct ?_ ?_ ?_ ?_ ?_ ?_
    · exact List.nodup_nil
    · exact writtenKeys ▸ (ascendingBy_ascending _ _).nodup_map
    · intro key given
      exact writtenKeys ▸ mem_map_ascendingBy_iff.mpr (sameKeys ▸ given)
    · exact List.forall_mem_nil _
    · intro key reading other given inWritten
      rcases List.mem_map.mp inWritten with ⟨⟨_, passage⟩, kept, same⟩
      cases same
      rcases (Json.Decode.isLast_members_iff takeMembers).mp (mem_ascendingBy_iff.mp kept) with
        ⟨reading', last, take⟩
      have listed := mem_of_mem_ascendingBy _ _ _ (mem_ascendingBy_iff.mpr last)
      cases List.inj_on_of_nodup_map distinct given listed rfl
      exact keeps_passage reading passage ⟨each _ given, byName _ given⟩ take
    · intro key other inWritten absent
      have listed : key ∈ (ascendingBy (·.1) passages).map (·.1) :=
        writtenKeys ▸ List.mem_map_of_mem inWritten
      exact absurd (sameKeys ▸ mem_map_ascendingBy_iff.mp listed) absent
  | _ => cases taken

theorem keepsFields_story :
    KeepsFields storyShape
      (fun field reading => reading.KeysOnce ∧
        (field = "openingPassage" → PassageByName reading) ∧
        (field = "passages" → ∀ member ∈ reading.members, PassageByName member.2))
      plainInStory storyDefaults StoryFields.put {} StoryFields.value? where
  distinct := by decide
  distinctDefaults := by decide
  knownDefaults := by decide
  sets := by
    rintro field known reading before after ⟨once, opening, stored⟩ put
    simp only [storyShape, List.mem_cons, List.not_mem_nil, or_false] at known
    rcases known with rfl | rfl | rfl
    all_goals
      rcases bind_eq_ok_iff.mp put with ⟨value, take, same⟩
      cases same
    · exact ⟨_, rfl, keeps_string reading value trivial take⟩
    · exact ⟨_, rfl, keeps_passage reading value ⟨once, opening rfl⟩ take⟩
    · exact ⟨_, rfl, keeps_stored reading value ⟨once, stored rfl⟩ take⟩
  leaves := by
    intro other known field different reading before after put
    simp only [storyShape, List.mem_cons, List.not_mem_nil, or_false] at known
    rcases known with rfl | rfl | rfl
    all_goals
      rcases bind_eq_ok_iff.mp put with ⟨value, take, same⟩
      cases same
      simp only [StoryFields.value?, if_neg different.symm]
  starts := by
    intro field known value isValue
    simp only [storyShape, List.mem_cons, List.not_mem_nil, or_false] at known
    rcases known with rfl | rfl | rfl
    all_goals cases isValue
    refine ⟨_, List.mem_cons_self, .object .nil (.refl _) ?_⟩
    intro key value other listed
    exact absurd listed List.not_mem_nil

theorem keeps_story :
    Keeps (fun reading => reading.KeysOnce ∧ StoryByName reading) plainStory takeWholeStory
      ofStory := by
  rintro reading story ⟨once, byName⟩ taken
  rcases byName.isObject with ⟨members, fault, rfl⟩
  rcases exists_fields_of_takeWholeStory taken with
    ⟨found, fields, listed, collected, hasTitle, hasOpening, stored⟩
  refine keepsFields_story.same ?_ listed collected rfl ?_
  · rintro ⟨field, value⟩ member
    refine ⟨once.members _ member, ?_, ?_⟩
    · rintro rfl
      exact byName.opening value member
    · rintro rfl
      exact byName.passages value member
  · have sameStored : ofFiled fields.passages =
        .object (story.stored.map fun passage => (passage.title, ofPassage passage)) := by
      rw [ofFiled, ← stored, List.map_map]
      rfl
    simp only [List.forall_mem_cons]
    refine ⟨?_, ?_, ?_, List.forall_mem_nil _⟩
    · exact congrArg (Option.map Value.string) hasTitle
    · exact congrArg (Option.map ofPassage) hasOpening
    · exact congrArg some sameStored

end Document

/-- Nothing in a document is ignored when a story is read from it.  No object may repeat
a key, and records and moods are to be written by their names.  Then the text holds
one value, and the story's text holds the same value, once defaults stand for the
fields that are absent and the actions are in plain form. -/
theorem Story.keepsAll_of_ofJson {text : String} {story : Story}
    (read : Story.ofJson text = .ok story) (once : (Json.Document.ofText text).root.KeysOnce)
    (byName : Document.StoryByName (Json.Document.ofText text).root) :
    (Json.Document.ofText text).more = false ∧
      (Json.Document.ofText story.toJson).more = false ∧
        (Document.plainStory (Json.Document.ofText text).root).Same
          (Json.Document.ofText story.toJson).root := by
  rcases Json.decode_eq_ok_iff.mp (Story.decode_of_ofJson read) with ⟨taken, atEnd⟩
  have written : Json.Document.ofText story.toJson = ⟨(Document.ofStory story).reading, false⟩ :=
    Json.ofText_text (Document.fits_ofStory story 119) .indented
  rw [written]
  exact ⟨atEnd, rfl, Document.keeps_story _ story ⟨once, byName⟩ taken⟩

/-! ## A story that is written loosely -/

namespace Json

theorem keysOnce_array {items : List Value} (each : ∀ item ∈ items, item.reading.KeysOnce) :
    (Value.array items).reading.KeysOnce := by
  refine .array ?_ .closed
  rw [itemReadings_eq_map]
  exact List.forall_mem_map.mpr each

theorem keysOnce_object {members : List (String × Value)} (distinct : (members.map (·.1)).Nodup)
    (each : ∀ member ∈ members, member.2.reading.KeysOnce) :
    (Value.object members).reading.KeysOnce := by
  refine .object ?_ ?_ none
  · exact (Decode.keys_memberReadings members).symm ▸ distinct
  · rw [memberReadings_eq_map]
    exact List.forall_mem_map.mpr each

end Json

/-- A story as it may be written by hand.  It leaves out what has a default, has its
members in another order, and writes its actions with an alias, with a number and with
a padded text. -/
def beacon : Json.Value :=
  .object
    [("openingPassage",
      .object
        [("links",
          .array
            [.object
              [("actions",
                .array
                  [.object [("item", .integer 7)], .object [("goldChange", .string " +07 ")]]),
                ("ref", .string "Lamp"), ("text", .string "Climb")],
              .object [("text", .string "Wait"), ("ref", .string "Shore")]]),
          ("title", .string "Shore"), ("content", .string "Waves.")]),
      ("title", .string "Beacon")]

/-- The story that is written. -/
def beaconStory : Story where
  title := "Beacon"
  opening :=
    { title := "Shore"
      content := "Waves."
      mood := .none
      singleVisit := false
      links :=
        [⟨⟨"Climb", "Lamp"⟩, [.take "7", .change .gold 7]⟩, ⟨⟨"Wait", "Shore"⟩, []⟩] }
  filed := []

theorem fits_beacon : beacon.Fits Json.greatestDepth := by
  have whole : Json.Whole 7 := by
    unfold Json.Whole
    decide
  -- There is one rule for each constructor of the value.
  repeat'
    first
    | exact .string _
    | exact .integer whole
    | refine .object ?_
    | refine .array ?_
    | refine List.forall_mem_cons.mpr ⟨?_, ?_⟩
    | exact List.forall_mem_nil _

theorem keysOnce_beacon : beacon.reading.KeysOnce := by
  repeat'
    first
    | exact .string _
    | exact .number _
    | refine Json.keysOnce_object (by decide) ?_
    | refine Json.keysOnce_array ?_
    | refine List.forall_mem_cons.mpr ⟨?_, ?_⟩
    | exact List.forall_mem_nil _

theorem byName_beacon : Document.StoryByName beacon.reading := by
  refine ⟨⟨_, _, rfl⟩, fun value member => ?_, fun value member => ?_⟩
  all_goals
    simp only [beacon, Json.Value.reading, Json.memberReadings, Json.Reading.members, List.mem_cons,
      Prod.mk.injEq, String.reduceEq, false_and, true_and, List.not_mem_nil, or_false] at member
  subst member
  refine ⟨⟨_, _, rfl⟩, fun value member => ?_, fun value member => ?_⟩
  all_goals
    simp only [Json.Reading.members, List.mem_cons, Prod.mk.injEq, String.reduceEq, false_and,
      true_and, List.not_mem_nil, or_false, or_self] at member
  subst member
  rintro link (_ | ⟨_, _ | ⟨_, ⟨⟩⟩⟩)
  · exact ⟨_, _, rfl⟩
  · exact ⟨_, _, rfl⟩

theorem ofJson_beacon : Story.ofJson (beacon.text .compact) = .ok beaconStory := by
  have taken : Document.takeWholeStory beacon.reading = .ok beaconStory := rfl
  rw [Story.ofJson, Json.decode_text Document.takeWholeStory fits_beacon, taken]

theorem Story.keepsAll_of_ofJson_beacon :
    Story.ofJson (beacon.text .compact) = .ok beaconStory ∧ beacon.reading.KeysOnce ∧
      Document.StoryByName beacon.reading ∧
        (Document.plainStory beacon.reading).Same
          (Json.Document.ofText beaconStory.toJson).root := by
  have parsed := Json.ofText_text fits_beacon .compact
  have kept := Story.keepsAll_of_ofJson ofJson_beacon (parsed ▸ keysOnce_beacon)
    (parsed ▸ byName_beacon)
  rw [parsed] at kept
  exact ⟨ofJson_beacon, keysOnce_beacon, byName_beacon, kept.2.2⟩

end Gamebook
