import Mathlib.Data.List.Dedup
import Gamebook.Proofs.Document.RoundTrip
import Gamebook.Proofs.Document.Soundness

namespace Gamebook

/-!
# The passages that a document writes

The stored passages of a story are the members of an object whose keys are free.
What comes of these members is followed here from the text to the story.  A record
has each of its fields at most once, so there is one such object.  Each of its
members is taken, and of those that share a key only the last one gets into the
story.  Titles that are not distinct are refused later, but by then there is one
member for each key.

So a story has a passage for each key that is written, and a member is lost exactly
when its key is written again.
-/

/-! ## The last elements with their keys -/

section

variable {α κ : Type} [LT κ] [DecidableLT κ] [Std.Trichotomous (α := κ) (· < ·)]
  [Std.Asymm (α := κ) (· < ·)] [Trans (α := κ) (· < ·) (· < ·) (· < ·)]

theorem mem_map_ascendingBy_iff {key : α → κ} {xs : List α} {k : κ} :
    k ∈ (ascendingBy key xs).map key ↔ k ∈ xs.map key := by
  constructor
  · intro listed
    rcases List.mem_map.mp listed with ⟨x, kept, rfl⟩
    exact List.mem_map_of_mem (mem_of_mem_ascendingBy key x xs kept)
  · intro listed
    rcases List.mem_map.mp listed with ⟨x, member, rfl⟩
    have found : ∃ y ∈ ascendingBy key xs, key y = key x := exists_mem_ascendingBy member
    rcases found with ⟨y, kept, same⟩
    exact same ▸ List.mem_map_of_mem kept

/-- The last elements with their keys, put in order, are as many as the keys. -/
theorem length_ascendingBy [DecidableEq κ] (key : α → κ) (xs : List α) :
    (ascendingBy key xs).length = (xs.map key).dedup.length := by
  have distinct : ((ascendingBy key xs).map key).Nodup := (ascendingBy_ascending key xs).nodup_map
  have sameKeys : ∀ k, k ∈ (ascendingBy key xs).map key ↔ k ∈ (xs.map key).dedup :=
    fun k => mem_map_ascendingBy_iff.trans List.mem_dedup.symm
  have sameLists := (List.perm_ext_iff_of_nodup distinct (List.nodup_dedup _)).mpr sameKeys
  rw [← sameLists.length_eq, List.length_map]

end

namespace Json
namespace Decode

variable {ρ α σ : Type}

/-! ## The fields of a record -/

/-- When nothing is wrong with a record as such, it is closed and gives all of its
members, each of them is one of its fields, and no field is given twice. -/
theorem fields_of_knownMembers {shape : Shape} {seen : List String} {fault : Option Fault}
    {readings given : List (String × Reading)}
    (known : knownMembers (ρ := ρ) shape seen fault readings = (given, none)) :
    fault = none ∧ given = readings ∧
      (∀ key ∈ readings.map (·.1), key ∈ shape.fields ∧ key ∉ seen) ∧
      (readings.map (·.1)).Nodup := by
  induction readings generalizing seen given with
  | nil =>
    cases (Prod.mk.inj known).1
    exact ⟨Option.map_eq_none_iff.mp (Prod.mk.inj known).2, rfl, List.forall_mem_nil _, .nil⟩
  | cons member readings ih =>
    rcases member with ⟨key, reading⟩
    rw [knownMembers] at known
    split at known
    · cases known
    · next isField =>
      split at known
      · cases known
      · next unseen =>
        have later : knownMembers (ρ := ρ) shape (key :: seen) fault readings = (_, none) :=
          Prod.ext rfl (Prod.mk.inj known).2
        rcases ih later with ⟨closed, all, apart, distinct⟩
        have field : key ∈ shape.fields := by simpa using isField
        have fresh : key ∉ seen := fun repeated => unseen (List.contains_iff_mem.mpr repeated)
        refine ⟨closed, ?_, ?_, ?_⟩
        · exact (Prod.mk.inj known).1.symm.trans (congrArg (List.cons _) all)
        · refine List.forall_mem_cons.mpr ⟨⟨field, fresh⟩, fun other later => ?_⟩
          exact ⟨(apart other later).1, fun before =>
            (apart other later).2 (List.mem_cons_of_mem _ before)⟩
        · refine List.nodup_cons.mpr ⟨fun later => ?_, distinct⟩
          exact (apart key later).2 List.mem_cons_self

section

variable {β : Type} {part : σ → β} {field : String}
  {put : String → Reading → σ → Except (Problem ρ) σ}

/-- What is put into a record under other fields leaves a part of it as it is. -/
theorem Listing.part_of_putAll_of_absent {given : List (String × Reading)}
    (apart : ∀ other ∈ given.map (·.1), other ≠ field → ∀ value before after,
      put other value before = .ok after → part after = part before)
    (absent : field ∉ given.map (·.1)) {empty state : σ}
    (filled : putAll put given empty = .ok state) : part state = part empty := by
  induction given generalizing empty with
  | nil =>
    cases filled
    rfl
  | cons first given ih =>
    rcases List.forall_mem_cons.mp apart with ⟨firstApart, others⟩
    have different : first.1 ≠ field := fun same => absent (same ▸ List.mem_cons_self)
    have absentLater := fun later => absent (List.mem_cons_of_mem _ later)
    rcases bind_eq_ok_iff.mp filled with ⟨between, putFirst, more⟩
    exact (ih others absentLater more).trans
      (firstApart different first.2 empty between putFirst)

/-- A field that is put into a record stays there, because no other member touches
it. -/
theorem Listing.exists_put_of_mem {reading : Reading} {given : List (String × Reading)}
    (apart : ∀ other ∈ given.map (·.1), other ≠ field → ∀ value before after,
      put other value before = .ok after → part after = part before)
    (distinct : (given.map (·.1)).Nodup) (member : (field, reading) ∈ given) {empty state : σ}
    (filled : putAll put given empty = .ok state) :
    ∃ before after, put field reading before = .ok after ∧ part state = part after := by
  induction given generalizing empty with
  | nil => cases member
  | cons first given ih =>
    rcases List.forall_mem_cons.mp apart with ⟨firstApart, others⟩
    rcases List.nodup_cons.mp distinct with ⟨absent, distinctLater⟩
    rcases bind_eq_ok_iff.mp filled with ⟨between, putFirst, more⟩
    rcases List.mem_cons.mp member with rfl | later
    · exact ⟨empty, between, putFirst, part_of_putAll_of_absent others absent more⟩
    · exact ih others distinctLater later more

end

/-- A record is collected from an object only if that is closed, has none but the
record's fields, and has none of them twice.  Then every member is put into it. -/
theorem putAll_of_collect {shape : Shape} {members : List (String × Reading)}
    {fault : Option Fault} {found : Listing ρ}
    (listed : listing shape (.object members fault) = .ok found) {empty state : σ}
    {put : String → Reading → σ → Except (Problem ρ) σ}
    (collected : found.collect empty put = .ok state) :
    fault = none ∧ (∀ key ∈ members.map (·.1), key ∈ shape.fields) ∧
      (members.map (·.1)).Nodup ∧ Listing.putAll put members empty = .ok state := by
  rcases known : knownMembers (ρ := ρ) shape [] fault members with ⟨given, stop⟩
  rw [listing, known] at listed
  cases listed
  rcases bind_eq_ok_iff.mp collected with ⟨filled, putAll, stopped⟩
  split at stopped
  · next noStop =>
    cases stopped
    cases noStop
    rcases fields_of_knownMembers known with ⟨closed, rfl, known, distinct⟩
    exact ⟨closed, fun key listed => (known key listed).1, distinct, putAll⟩
  · cases stopped

/-! ## Objects with free keys -/

/-- The members of an object are taken under the keys by which they are written. -/
theorem keys_of_members {value : Decoder ρ α} {readings : List (String × Reading)}
    {entries : List (String × α)} (taken : members value readings = .ok entries) :
    entries.map (·.1) = readings.map (·.1) := by
  induction readings generalizing entries with
  | nil =>
    cases taken
    rfl
  | cons member readings ih =>
    rcases bind_eq_ok_iff.mp taken with ⟨first, takeFirst, rest⟩
    rcases bind_eq_ok_iff.mp rest with ⟨others, takeOthers, same⟩
    cases same
    exact congrArg (List.cons member.1) (ih takeOthers)

/-- The last value under a key is taken from the last member with the key. -/
theorem isLast_members_iff {value : Decoder ρ α} {readings : List (String × Reading)}
    {entries : List (String × α)} (taken : members value readings = .ok entries) {key : String}
    {found : α} :
    IsLast (·.1) (key, found) entries ↔
      ∃ reading, IsLast (·.1) (key, reading) readings ∧ value reading = .ok found := by
  induction readings generalizing entries with
  | nil =>
    cases taken
    exact iff_of_false nofun nofun
  | cons member readings ih =>
    rcases bind_eq_ok_iff.mp taken with ⟨first, takeFirst, rest⟩
    rcases bind_eq_ok_iff.mp rest with ⟨others, takeOthers, same⟩
    cases same
    have sameKeys := keys_of_members takeOthers
    have absent_iff : (∀ entry ∈ others, entry.1 ≠ key) ↔ ∀ other ∈ readings, other.1 ≠ key := by
      have ofKeys := List.forall_mem_map (f := (·.1)) (l := others) (P := (· ≠ key))
      rw [← ofKeys, sameKeys, List.forall_mem_map]
    constructor
    · rintro (apart | last)
      · exact ⟨member.2, .here (absent_iff.mp apart), takeFirst⟩
      · rcases (ih takeOthers).mp last with ⟨reading, last, takes⟩
        exact ⟨reading, .later last, takes⟩
    · rintro ⟨reading, apart | last, takes⟩
      · cases takeFirst.symm.trans takes
        exact .here (absent_iff.mpr apart)
      · exact .later ((ih takeOthers).mpr ⟨reading, last, takes⟩)

end Decode
end Json

namespace Document

open Json (Reading)
open Json.Decode (map)

/-- Passages under keys are added when each key is the passage's title and the
passages can be added one after the other. -/
theorem addFiled_eq_ok_iff {story after : Story} {entries : List (String × Passage)} :
    addFiled story entries = .ok after ↔
      (∀ entry ∈ entries, entry.1 = entry.2.title) ∧
        (entries.map (·.2)).foldlM Story.add? story = some after := by
  induction entries generalizing story with
  | nil =>
    rw [addFiled, List.map_nil, List.foldlM_nil, and_iff_right (List.forall_mem_nil _)]
    exact (Except.ok.injEq _ _).to_iff.trans (Option.some_inj).symm
  | cons entry entries ih =>
    rcases entry with ⟨key, passage⟩
    rw [addFiled, List.map_cons, List.foldlM_cons, List.forall_mem_cons]
    by_cases filed : key = passage.title
    · rw [if_neg (not_not_intro filed), and_iff_right filed]
      cases story.add? passage with
      | none => exact iff_of_false error_ne_ok fun all => (Option.some_ne_none _).symm all.2
      | some next => exact ih
    · rw [if_pos filed]
      exact iff_of_false error_ne_ok fun all => filed all.1.1

/-- The title and the opening of a story are its fields, and the stored passages are
those that are left under the keys, in order. -/
theorem parts_of_storyOfFields {title : String} {opening : Passage}
    {passages : List (String × Passage)} {story : Story}
    (made : storyOfFields title opening passages = .ok story) :
    story.title = title ∧ story.opening = opening ∧
      story.stored.map (fun passage => (passage.title, passage)) = ascendingBy (·.1) passages := by
  rcases bind_eq_ok_iff.mp made with ⟨start, create, added⟩
  rcases addFiled_eq_ok_iff.mp added with ⟨filed, foldAdd⟩
  cases (Story.create_eq_ok_iff.mp create).2
  rcases Story.foldlM_add?_create_iff.mp foldAdd with
    ⟨-, sameTitle, sameOpening, -, stored, ordered⟩
  have back : ((ascendingBy (·.1) passages).map (·.2)).map
      (fun passage => (passage.title, passage)) = ascendingBy (·.1) passages := by
    rw [List.map_map]
    refine (List.map_congr_left fun entry listed => ?_).trans (List.map_id _)
    exact Prod.ext (filed entry listed).symm rfl
  have same := (stored.map fun passage => (passage.title, passage)).trans (.of_eq back)
  have inOrder : Ascending (·.1) (story.stored.map fun passage => (passage.title, passage)) :=
    List.pairwise_map.mpr ordered
  exact ⟨sameTitle, sameOpening, inOrder.eq_of_perm (ascendingBy_ascending _ _) same⟩

/-- A story that is taken from a reading is made of the fields that are collected
there. -/
theorem exists_fields_of_takeWholeStory {reading : Reading} {story : Story}
    (taken : takeWholeStory reading = .ok story) :
    ∃ found fields, Json.Decode.listing storyShape reading = .ok found ∧
      found.collect {} StoryFields.put = .ok fields ∧ fields.title = some story.title ∧
      fields.opening = some story.opening ∧
      story.stored.map (fun passage => (passage.title, passage)) =
        ascendingBy (·.1) fields.passages := by
  rcases bind_eq_ok_iff.mp taken with ⟨found, listed, rest⟩
  rcases bind_eq_ok_iff.mp rest with ⟨fields, collected, rest⟩
  rcases bind_eq_ok_iff.mp rest with ⟨title, hasTitle, rest⟩
  rcases bind_eq_ok_iff.mp rest with ⟨opening, hasOpening, accepted⟩
  rcases parts_of_storyOfFields (made_of_accepted _ story accepted) with ⟨rfl, rfl, stored⟩
  exact ⟨found, fields, listed, collected, Json.Decode.Listing.require_eq_ok hasTitle,
    Json.Decode.Listing.require_eq_ok hasOpening, stored⟩

/-- What a story stores, by the members of the object that is written for its stored
passages. -/
theorem stored_of_takeWholeStory {members entries : List (String × Reading)}
    {fault fault' : Option Json.Fault} {story : Story}
    (taken : takeWholeStory (.object members fault) = .ok story)
    (written : ("passages", .object entries fault') ∈ members) :
    ∃ values, Json.Decode.members takePassage entries = .ok values ∧
      (∀ entry ∈ ascendingBy (·.1) values, entry.1 = entry.2.title) ∧
        story.stored.Perm ((ascendingBy (·.1) values).map (·.2)) := by
  rcases exists_fields_of_takeWholeStory taken with ⟨found, fields, listed, collected, -, -, stored⟩
  have apart : ∀ other ∈ storyShape.fields, other ≠ "passages" → ∀ value before after,
      StoryFields.put other value before = .ok after → after.passages = before.passages := by
    intro other known different value before after put
    unfold StoryFields.put at put
    repeat' split at put
    all_goals
      rcases bind_eq_ok_iff.mp put with ⟨part, take, same⟩
      cases same
    · rfl
    · rfl
    · simp_all [storyShape]
  rcases Json.Decode.putAll_of_collect listed collected with ⟨-, known, distinct, filled⟩
  rcases Json.Decode.Listing.exists_put_of_mem (fun other given => apart other (known other given))
    distinct written filled with ⟨before, after, put, samePassages⟩
  rcases bind_eq_ok_iff.mp put with ⟨values, take, same⟩
  cases same
  rcases bind_eq_ok_iff.mp take with ⟨taken, takeMembers, rest⟩
  rcases seq_eq_ok_iff.mp rest with ⟨-, same⟩
  cases same
  rw [samePassages] at stored
  refine ⟨values, takeMembers, ?_, ?_⟩
  · rw [← stored]
    exact List.forall_mem_map.mpr fun passage listed => rfl
  · rw [← stored, List.map_map]
    exact .of_eq (List.map_id _).symm

end Document

/-- A story that is read from a document stores the last passage that is written
under each key, and nothing else.  So it has one passage for each key beside its
opening, and as many as there are members only when no key is written twice. -/
theorem Story.keepsLast_of_ofJson {text : String} {story : Story}
    (read : Story.ofJson text = .ok story) {members entries : List (String × Json.Reading)}
    {fault fault' : Option Json.Fault}
    (isObject : (Json.Document.ofText text).root = .object members fault)
    (written : ("passages", .object entries fault') ∈ members) :
    (∀ passage, passage ∈ story.stored ↔
      ∃ reading, IsLast (·.1) (passage.title, reading) entries ∧
        Document.takePassage reading = .ok passage) ∧
    (∀ title, title ∈ story.stored.map Passage.title ↔ title ∈ entries.map (·.1)) ∧
    story.size = (entries.map (·.1)).dedup.length + 1 ∧
    (story.size = entries.length + 1 ↔ (entries.map (·.1)).Nodup) := by
  have taken := isObject ▸ Story.take_root_of_ofJson read
  rcases Document.stored_of_takeWholeStory taken written with ⟨values, takeMembers, filed, stored⟩
  have sameKeys := Json.Decode.keys_of_members takeMembers
  have mem_stored_iff : ∀ passage, passage ∈ story.stored ↔
      IsLast (·.1) (passage.title, passage) values := by
    intro passage
    rw [stored.mem_iff, ← mem_ascendingBy_iff, List.mem_map]
    constructor
    · rintro ⟨entry, listed, rfl⟩
      rw [← filed entry listed]
      exact listed
    · intro listed
      exact ⟨_, listed, rfl⟩
  have titles : (story.stored.map Passage.title).Perm ((ascendingBy (·.1) values).map (·.1)) := by
    refine (stored.map Passage.title).trans (.of_eq ?_)
    rw [List.map_map]
    exact List.map_congr_left fun entry listed => (filed entry listed).symm
  have size : story.size = (entries.map (·.1)).dedup.length + 1 := by
    rw [Story.size, Story.passages, List.length_cons, stored.length_eq, List.length_map,
      length_ascendingBy, sameKeys]
  refine ⟨fun passage => ?_, fun title => ?_, size, ?_⟩
  · rw [mem_stored_iff, Json.Decode.isLast_members_iff takeMembers]
  · rw [titles.mem_iff, mem_map_ascendingBy_iff, sameKeys]
  · have length : (entries.map (·.1)).length = entries.length := List.length_map _
    rw [size, Nat.add_right_cancel_iff, ← List.dedup_eq_self, ← length]
    exact ⟨(List.dedup_sublist _).eq_of_length, congrArg List.length⟩

/-! ## A key that is written again -/

/-- A story as it may be written but not made, with two passages under one key. -/
def poles : Story where
  title := "Poles"
  opening := ⟨"Start", "Begin.", .none, false, []⟩
  filed := Story.filing [⟨"North", "Snow.", .none, false, []⟩, ⟨"North", "Ice.", .none, false, []⟩]

/-- The members that the text of the story has for its stored passages. -/
def polesEntries : List (String × Json.Reading) :=
  Json.memberReadings (poles.stored.map fun passage => (passage.title, Document.ofPassage passage))

/-- The tree of the text has both passages. -/
theorem root_poles :
    ∃ members, (Json.Document.ofText poles.toJson).root = .object members none ∧
      ("passages", .object polesEntries none) ∈ members := by
  have parsed := Json.ofText_text (Document.fits_ofStory poles 119) .indented
  refine ⟨_, congrArg Json.Document.root parsed, ?_⟩
  exact List.mem_cons_of_mem _ (List.mem_cons_of_mem _ List.mem_cons_self)

theorem storyOfFields_poles :
    Document.storyOfFields poles.title poles.opening
      (poles.stored.map fun passage => (passage.title, passage)) =
      .ok { poles with filed := Story.filing [⟨"North", "Ice.", .none, false, []⟩] } := by
  decide

/-- The story that is read has only the passage that is written last. -/
theorem ofJson_poles :
    Story.ofJson poles.toJson =
      .ok { poles with filed := Story.filing [⟨"North", "Ice.", .none, false, []⟩] } := by
  have decoded :=
    Json.decode_text Document.takeWholeStory (Document.fits_ofStory poles 119) .indented
  rw [Document.takeWholeStory, Document.takeStoryWith_ofStory_fields (by decide),
    storyOfFields_poles] at decoded
  rw [Story.ofJson, Story.toJson, Document.takeWholeStory, decoded]

/-- A story may have fewer passages than are written. -/
theorem exists_lost_passage :
    ¬ ∀ text story members entries fault fault', Story.ofJson text = .ok story →
      (Json.Document.ofText text).root = .object members fault →
        ("passages", .object entries fault') ∈ members → story.size = entries.length + 1 := by
  intro allKept
  rcases root_poles with ⟨members, isObject, written⟩
  have sameSize := allKept _ _ _ _ _ _ ofJson_poles isObject written
  exact absurd sameSize (by decide)

theorem Story.keepsLast_of_ofJson_poles :
    ∃ story members fault fault', Story.ofJson poles.toJson = .ok story ∧
      (Json.Document.ofText poles.toJson).root = .object members fault ∧
      ("passages", .object polesEntries fault') ∈ members ∧
      ¬ (polesEntries.map (·.1)).Nodup ∧
      story.size = (polesEntries.map (·.1)).dedup.length + 1 := by
  rcases root_poles with ⟨members, isObject, written⟩
  have kept := Story.keepsLast_of_ofJson ofJson_poles isObject written
  exact ⟨_, _, _, _, ofJson_poles, isObject, written, by decide, kept.2.2.1⟩

end Gamebook
