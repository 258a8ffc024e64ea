import Gamebook.Proofs.Document.Kept

namespace Gamebook

/-!
# Objects with one tag

An action or a goal is written as an object with one member.  How many members there are
is asked only when the object has become an entry, and an entry holds one payload for each
tag.  So what is counted are the tags and not the members: different tags are refused, and
so is an object without members, but a tag that is written again is not noticed.

The two families differ in their word and in the meaning of their tags.  They are followed
together from the members of the object to the value.
-/

/-- Where all keys are the same, the last element with its key is the last of all. -/
theorem isLast_iff_getLast? {α κ : Type} {key : α → κ} {x : α} {xs : List α}
    (same : ∀ y ∈ xs, key y = key x) : IsLast key x xs ↔ xs.getLast? = some x := by
  induction xs with
  | nil => exact iff_of_false nofun nofun
  | cons y ys ih =>
    rcases List.forall_mem_cons.mp same with ⟨-, others⟩
    cases ys with
    | nil =>
      constructor
      · intro last
        cases last with
        | here _ => rfl
        | later last => cases last
      · intro last
        cases last
        exact .here (List.forall_mem_nil _)
    | cons z zs =>
      rw [List.getLast?_cons_cons, ← ih others]
      constructor
      · intro last
        cases last with
        | here apart => exact absurd (others z List.mem_cons_self) (apart z List.mem_cons_self)
        | later last => exact last
      · exact .later

/-! ## Entries -/

namespace TaggedEntry

variable {family tag : String} {payload : Payload} {written : List (String × Payload)}

theorem only_eq_ok_iff {entry : TaggedEntry} {member : String × Payload} :
    entry.only family = .ok member ↔ entry.members = [member] := by
  rw [only]
  split
  · next found isSingle => rw [isSingle, Except.ok.injEq, List.singleton_inj]
  · next notSingle =>
    apply iff_of_false error_ne_ok
    intro isSingle
    exact notSingle member isSingle

/-- The members that are written make up one when they all have its tag, and then it is
the last of them. -/
theorem only_ofWritten_eq_ok_iff :
    (ofWritten written).only family = .ok (tag, payload) ↔
      (∀ member ∈ written, member.1 = tag) ∧ written.getLast? = some (tag, payload) := by
  rw [only_eq_ok_iff]
  change ascendingBy (·.1) written = [(tag, payload)] ↔ _
  constructor
  · intro single
    have tags : ∀ member ∈ written, member.1 = tag := by
      intro member listed
      have kept := mem_map_ascendingBy_iff.mpr (List.mem_map_of_mem (f := Prod.fst) listed)
      rw [single] at kept
      exact List.mem_singleton.mp kept
    have last : IsLast (·.1) (tag, payload) written := by
      rw [← mem_ascendingBy_iff, single]
      exact List.mem_cons_self
    exact ⟨tags, (isLast_iff_getLast? tags).mp last⟩
  · rintro ⟨tags, last⟩
    have distinct := List.Nodup.of_map _ (ascendingBy_ascending (·.1) written).nodup_map
    apply List.perm_singleton.mp
    apply (List.perm_ext_iff_of_nodup distinct (List.nodup_singleton _)).mpr
    intro member
    rw [List.mem_singleton]
    constructor
    · intro kept
      have listed := mem_of_mem_ascendingBy _ member written kept
      have same : ∀ other ∈ written, other.1 = member.1 := by
        intro other isOther
        rw [tags other isOther, tags member listed]
      have isLast := (isLast_iff_getLast? same).mp (mem_ascendingBy_iff.mp kept)
      rw [last] at isLast
      exact (Option.some.inj isLast).symm
    · rintro rfl
      exact mem_ascendingBy_iff.mpr ((isLast_iff_getLast? tags).mpr last)

/-- What is counted are the different tags. -/
theorem only_ofWritten_of_count (many : (written.map (·.1)).dedup.length ≠ 1) :
    (ofWritten written).only family =
      .error (.tagCount family (written.map (·.1)).dedup.length) := by
  have count : (ofWritten written).members.length = (written.map (·.1)).dedup.length :=
    length_ascendingBy _ _
  rw [only]
  split
  · next member isSingle =>
    rw [isSingle] at count
    exact absurd count.symm many
  · rw [count]

end TaggedEntry

/-! ## Members -/

namespace Json
namespace Decode

variable {ρ α : Type} {value : Decoder ρ α} {readings : List (String × Reading)}

theorem map_object_eq_ok_iff {fault : Option Fault} {entries : List (String × α)} :
    map value (.object readings fault) = .ok entries ↔
      fault = none ∧ members value readings = .ok entries := by
  rw [map, bind_eq_ok_iff]
  constructor
  · rintro ⟨taken, take, rest⟩
    rcases seq_eq_ok_iff.mp rest with ⟨closed, same⟩
    cases same
    exact ⟨refuseFault_eq_ok_iff.mp closed, take⟩
  · rintro ⟨rfl, take⟩
    exact ⟨entries, take, rfl⟩

/-- Members are taken when each of their values is. -/
theorem exists_members_iff :
    (∃ entries, members value readings = .ok entries) ↔
      ∀ member ∈ readings, ∃ taken, value member.2 = .ok taken := by
  induction readings with
  | nil => exact iff_of_true ⟨[], rfl⟩ (List.forall_mem_nil _)
  | cons first readings ih =>
    rw [List.forall_mem_cons, ← ih]
    constructor
    · rintro ⟨entries, taken⟩
      rcases bind_eq_ok_iff.mp taken with ⟨found, takeFirst, rest⟩
      rcases bind_eq_ok_iff.mp rest with ⟨others, takeOthers, -⟩
      exact ⟨⟨found, takeFirst⟩, others, takeOthers⟩
    · rintro ⟨⟨found, takeFirst⟩, others, takeOthers⟩
      refine ⟨(first.1, found) :: others, ?_⟩
      rw [members, takeFirst, ok_bind, takeOthers, ok_bind]

end Decode
end Json

namespace Document

open Json (Reading)

/-- Take a value of a family, of which the word and the meanings of the tags are given. -/
def takeTagged {α : Type} (family : String) (ofTag : String → Payload → Except TagError α) :
    Decoder α := fun reading => do
  let entry ← takeEntry reading
  meaning (do
    let (tag, payload) ← entry.only family
    ofTag tag payload)

theorem takeAction_eq_takeTagged : takeAction = takeTagged "action" Action.ofTag := rfl

theorem takeGoal_eq_takeTagged : takeGoal = takeTagged "goal" Goal.ofTag := rfl

/-- Says that members are written under one tag and that the value is what the last of them
means.  The payloads of the others can be read, but they do not matter. -/
structure LastUnderTag {α : Type} (ofTag : String → Payload → Except TagError α)
    (members : List (String × Reading)) (value : α) : Prop where
  readable : ∀ member ∈ members, ∃ payload, takePayload member.2 = .ok payload
  last : ∃ tag reading payload, (∀ member ∈ members, member.1 = tag) ∧
    members.getLast? = some (tag, reading) ∧ takePayload reading = .ok payload ∧
      ofTag tag payload = .ok value

section

variable {α : Type} {family : String} {ofTag : String → Payload → Except TagError α}
  {members : List (String × Reading)} {fault : Option Json.Fault}

theorem tags_iff {entries : List (String × Payload)}
    (taken : Json.Decode.members takePayload members = .ok entries) {tag : String} :
    (∀ entry ∈ entries, entry.1 = tag) ↔ ∀ member ∈ members, member.1 = tag := by
  have ofKeys := List.forall_mem_map (f := (·.1)) (l := entries) (P := (· = tag))
  rw [← ofKeys, Json.Decode.keys_of_members taken, List.forall_mem_map]

/-- The last payload is taken from the last member, when all of them have its tag. -/
theorem getLast?_members_iff {entries : List (String × Payload)}
    (taken : Json.Decode.members takePayload members = .ok entries) {tag : String}
    (tags : ∀ member ∈ members, member.1 = tag) {payload : Payload} :
    entries.getLast? = some (tag, payload) ↔
      ∃ reading, members.getLast? = some (tag, reading) ∧ takePayload reading = .ok payload := by
  have lastEntry : IsLast (·.1) (tag, payload) entries ↔ entries.getLast? = some (tag, payload) :=
    isLast_iff_getLast? ((tags_iff taken).mpr tags)
  rw [← lastEntry, Json.Decode.isLast_members_iff taken]
  apply exists_congr
  intro reading
  have lastMember : IsLast (·.1) (tag, reading) members ↔ members.getLast? = some (tag, reading) :=
    isLast_iff_getLast? tags
  rw [lastMember]

/-- An object is a value of a family when it is closed and its members are written under
one tag. -/
theorem takeTagged_object_eq_ok_iff {value : α} :
    takeTagged family ofTag (.object members fault) = .ok value ↔
      fault = none ∧ LastUnderTag ofTag members value := by
  rw [takeTagged, bind_eq_ok_iff]
  constructor
  · rintro ⟨entry, takesEntry, means⟩
    rcases bind_eq_ok_iff.mp takesEntry with ⟨entries, isMap, same⟩
    cases same
    rcases Json.Decode.map_object_eq_ok_iff.mp isMap with ⟨closed, taken⟩
    rcases bind_eq_ok_iff.mp (meaning_eq_ok_iff.mp means) with ⟨⟨tag, payload⟩, hasOne, isValue⟩
    rcases TaggedEntry.only_ofWritten_eq_ok_iff.mp hasOne with ⟨entryTags, last⟩
    have tags := (tags_iff taken).mp entryTags
    rcases (getLast?_members_iff taken tags).mp last with ⟨reading, isLast, takes⟩
    exact ⟨closed, Json.Decode.exists_members_iff.mp ⟨entries, taken⟩,
      tag, reading, payload, tags, isLast, takes, isValue⟩
  · rintro ⟨rfl, readable, tag, reading, payload, tags, isLast, takes, isValue⟩
    rcases Json.Decode.exists_members_iff.mpr readable with ⟨entries, taken⟩
    have last := (getLast?_members_iff taken tags).mpr ⟨reading, isLast, takes⟩
    have hasOne : (TaggedEntry.ofWritten entries).only family = .ok (tag, payload) :=
      TaggedEntry.only_ofWritten_eq_ok_iff.mpr ⟨(tags_iff taken).mpr tags, last⟩
    refine ⟨.ofWritten entries, ?_, ?_⟩
    · rw [takeEntry, Json.Decode.map_object_eq_ok_iff.mpr ⟨rfl, taken⟩, ok_bind]
    · rw [hasOne, ok_bind, meaning_eq_ok_iff]
      exact isValue

/-- When nothing else is wrong with an object, the number of its tags is told. -/
theorem takeTagged_object_of_count (closed : fault = none)
    (readable : ∀ member ∈ members, ∃ payload, takePayload member.2 = .ok payload)
    (many : (members.map (·.1)).dedup.length ≠ 1) :
    takeTagged family ofTag (.object members fault) =
      .error (.refused (.tag (.tagCount family (members.map (·.1)).dedup.length))) := by
  rcases Json.Decode.exists_members_iff.mpr readable with ⟨entries, taken⟩
  have entry : takeEntry (.object members fault) = .ok (.ofWritten entries) := by
    rw [takeEntry, Json.Decode.map_object_eq_ok_iff.mpr ⟨closed, taken⟩, ok_bind]
  rw [← Json.Decode.keys_of_members taken] at many ⊢
  rw [takeTagged, entry, ok_bind, TaggedEntry.only_ofWritten_of_count many]
  rfl

/-- Under one tag there is one tag. -/
theorem LastUnderTag.count {value : α} (lastUnder : LastUnderTag ofTag members value) :
    (members.map (·.1)).dedup.length = 1 := by
  by_contra many
  have taken : takeTagged "" ofTag (.object members none) = .ok value :=
    takeTagged_object_eq_ok_iff.mpr ⟨rfl, lastUnder⟩
  rw [takeTagged_object_of_count rfl lastUnder.readable many] at taken
  cases taken

end

/-- How a text that is an object is decoded as a value of a family. -/
structure DecodesLast {α : Type} (family : String)
    (ofTag : String → Payload → Except TagError α) (decoder : Decoder α) (text : String)
    (members : List (String × Reading)) (fault : Option Json.Fault) : Prop where
  accepted : ∀ value, Json.decode decoder text = .ok value ↔
    (Json.Document.ofText text).more = false ∧ fault = none ∧ LastUnderTag ofTag members value
  refused : (members.map (·.1)).dedup.length ≠ 1 → ∀ value, Json.decode decoder text ≠ .ok value
  counted : fault = none →
    (∀ member ∈ members, ∃ payload, takePayload member.2 = .ok payload) →
      (members.map (·.1)).dedup.length ≠ 1 → Json.decode decoder text =
        .error (.refused (.tag (.tagCount family (members.map (·.1)).dedup.length)))

theorem decodesLast_takeTagged {α : Type} {family : String}
    {ofTag : String → Payload → Except TagError α} {text : String}
    {members : List (String × Reading)} {fault : Option Json.Fault}
    (isObject : (Json.Document.ofText text).root = .object members fault) :
    DecodesLast family ofTag (takeTagged family ofTag) text members fault := by
  have accepted (value : α) : Json.decode (takeTagged family ofTag) text = .ok value ↔
      (Json.Document.ofText text).more = false ∧ fault = none ∧
        LastUnderTag ofTag members value := by
    rw [Json.decode_eq_ok_iff, isObject, takeTagged_object_eq_ok_iff, and_comm]
  refine ⟨accepted, ?_, ?_⟩
  · intro many value decoded
    exact many ((accepted value).mp decoded).2.2.count
  · intro closed readable many
    rw [Json.decode, isObject, takeTagged_object_of_count closed readable many, error_bind]

end Document

/-- An object is read as an action or as a goal only when its members are written under one
tag, and then the last of them is what is read.  Without members or with different tags it
is refused.  A member is discarded exactly when its tag is written again. -/
theorem decodesLast_of_object {text : String} {members : List (String × Json.Reading)}
    {fault : Option Json.Fault}
    (isObject : (Json.Document.ofText text).root = .object members fault) :
    Document.DecodesLast "action" Action.ofTag Document.takeAction text members fault ∧
      Document.DecodesLast "goal" Goal.ofTag Document.takeGoal text members fault := by
  rw [Document.takeAction_eq_takeTagged, Document.takeGoal_eq_takeTagged]
  exact ⟨Document.decodesLast_takeTagged isObject, Document.decodesLast_takeTagged isObject⟩

/-! ## A tag that is written again -/

/-- Two wounds, as one object. -/
def wounds : Json.Value :=
  .object [("healthChange", .string "-10"), ("healthChange", .string "-20")]

/-- Two hoards, as one object. -/
def hoards : Json.Value := .object [("minimumGold", .integer 10), ("minimumGold", .integer 20)]

theorem fits_wounds : wounds.Fits Json.greatestDepth := by
  apply Json.Value.Fits.object
  simp only [List.forall_mem_cons]
  exact ⟨.string _, .string _, List.forall_mem_nil _⟩

theorem fits_hoards : hoards.Fits Json.greatestDepth := by
  have ten : Json.Whole 10 := by
    unfold Json.Whole
    decide
  have twenty : Json.Whole 20 := by
    unfold Json.Whole
    decide
  apply Json.Value.Fits.object
  simp only [List.forall_mem_cons]
  exact ⟨.integer ten, .integer twenty, List.forall_mem_nil _⟩

theorem decode_wounds :
    Json.decode Document.takeAction (wounds.text .compact) = .ok (.change .health (-20)) := by
  rw [Json.decode_text Document.takeAction fits_wounds]
  rfl

theorem decode_hoards :
    Json.decode Document.takeGoal (hoards.text .compact) = .ok (.reach .gold 20) := by
  rw [Json.decode_text Document.takeGoal fits_hoards]
  rfl

/-- An action may be read from an object with two members, and so may a goal. -/
theorem exists_discarded_member :
    (¬ ∀ text members fault, (Json.Document.ofText text).root = .object members fault →
      members.length ≠ 1 → ∀ action, Json.decode Document.takeAction text ≠ .ok action) ∧
    ¬ ∀ text members fault, (Json.Document.ofText text).root = .object members fault →
      members.length ≠ 1 → ∀ goal, Json.decode Document.takeGoal text ≠ .ok goal := by
  constructor
  · intro refused
    have parsed := Json.ofText_text fits_wounds .compact
    exact refused _ _ _ (congrArg Json.Document.root parsed) (by decide) _ decode_wounds
  · intro refused
    have parsed := Json.ofText_text fits_hoards .compact
    exact refused _ _ _ (congrArg Json.Document.root parsed) (by decide) _ decode_hoards

/-- Only the second wound is read. -/
theorem decodesLast_of_object_wounds :
    ∃ members fault, (Json.Document.ofText (wounds.text .compact)).root = .object members fault ∧
      members.length = 2 ∧
      Document.LastUnderTag Action.ofTag members (.change .health (-20)) ∧
      ∀ goal, Json.decode Document.takeGoal (wounds.text .compact) ≠ .ok goal := by
  have parsed := Json.ofText_text fits_wounds .compact
  have decoded := decodesLast_of_object (congrArg Json.Document.root parsed)
  have last := (decoded.1.accepted _).mp decode_wounds
  refine ⟨_, _, congrArg Json.Document.root parsed, rfl, last.2.2, ?_⟩
  intro goal isGoal
  rcases ((decoded.2.accepted goal).mp isGoal).2.2.last with ⟨tag, _, _, _, isLast, _, isGoal⟩
  cases isLast
  cases isGoal

end Gamebook
