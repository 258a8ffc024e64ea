import Gamebook.Document.Session

namespace Gamebook

/-!
# What is decoded is well-formed

A record is decoded into parts that may be missing, and the parts are put
together by the same functions that make a value by hand.  So it is enough to
follow what holds of the parts: the actions that were read are valid, and the
links and passages that were taken are well-formed.  Texts need no such care,
because they are checked when the parts are put together.
-/

namespace Json

theorem refuseFault_eq_ok_iff {ρ : Type} {fault : Option Fault} :
    refuseFault (ρ := ρ) fault = .ok () ↔ fault = none := by
  cases fault <;> simp [refuseFault]

namespace Decode

variable {ρ α : Type}

/-! ## Lists, objects and records -/

/-- What holds of every item that can be taken holds of a list's items. -/
theorem forall_of_list {item : Decoder ρ α} {holds : α → Prop}
    (each : ∀ reading value, item reading = .ok value → holds value) {reading : Reading}
    {values : List α} (taken : list item reading = .ok values) : ∀ value ∈ values, holds value := by
  have ofItems : ∀ {readings values}, items item readings = .ok values →
      ∀ value ∈ values, holds value := by
    intro readings
    induction readings with
    | nil =>
      rintro values ⟨⟩
      exact List.forall_mem_nil _
    | cons reading readings ih =>
      intro values taken
      rcases bind_eq_ok_iff.mp taken with ⟨first, takeFirst, rest⟩
      rcases bind_eq_ok_iff.mp rest with ⟨others, takeOthers, same⟩
      cases same
      exact List.forall_mem_cons.mpr ⟨each reading first takeFirst, ih takeOthers⟩
  cases reading with
  | array readings ending =>
    rcases bind_eq_ok_iff.mp taken with ⟨found, takeItems, rest⟩
    rcases seq_eq_ok_iff.mp rest with ⟨-, same⟩
    cases same
    exact ofItems takeItems
  | _ => cases taken

/-- What holds of every value that can be taken holds of the values of an object
with free keys. -/
theorem forall_of_map {value : Decoder ρ α} {holds : α → Prop}
    (each : ∀ reading taken, value reading = .ok taken → holds taken) {reading : Reading}
    {entries : List (String × α)} (taken : map value reading = .ok entries) :
    ∀ entry ∈ entries, holds entry.2 := by
  have ofMembers : ∀ {readings entries}, members value readings = .ok entries →
      ∀ entry ∈ entries, holds entry.2 := by
    intro readings
    induction readings with
    | nil =>
      rintro entries ⟨⟩
      exact List.forall_mem_nil _
    | cons member readings ih =>
      intro entries taken
      rcases bind_eq_ok_iff.mp taken with ⟨first, takeFirst, rest⟩
      rcases bind_eq_ok_iff.mp rest with ⟨others, takeOthers, same⟩
      cases same
      exact List.forall_mem_cons.mpr ⟨each member.2 first takeFirst, ih takeOthers⟩
  cases reading with
  | object readings fault =>
    rcases bind_eq_ok_iff.mp taken with ⟨found, takeMembers, rest⟩
    rcases seq_eq_ok_iff.mp rest with ⟨-, same⟩
    cases same
    exact ofMembers takeMembers
  | _ => cases taken

namespace Listing

/-- What holds of an empty record, and stays when a field is put into it, holds of
every record that is collected. -/
theorem invariant_of_collect {σ : Type} {holds : σ → Prop}
    {put : String → Reading → σ → Except (Problem ρ) σ}
    (step : ∀ field reading state after, holds state → put field reading state = .ok after →
      holds after)
    {listing : Listing ρ} {empty state : σ} (start : holds empty)
    (collected : listing.collect empty put = .ok state) : holds state := by
  have ofPutAll : ∀ {given} {empty state : σ}, holds empty → putAll put given empty = .ok state →
      holds state := by
    intro given
    induction given with
    | nil =>
      rintro empty state start ⟨⟩
      exact start
    | cons member given ih =>
      intro empty state start put
      rcases bind_eq_ok_iff.mp put with ⟨between, first, rest⟩
      exact ih (step member.1 member.2 empty between start first) rest
  rcases bind_eq_ok_iff.mp collected with ⟨filled, putAll, rest⟩
  split at rest
  · cases rest
    exact ofPutAll start putAll
  · cases rest

theorem require_eq_ok {listing : Listing ρ} {field : String} {given : Option α} {value : α}
    (required : listing.require field given = .ok value) : given = some value := by
  cases given with
  | some found =>
    cases required
    rfl
  | none =>
    rw [require] at required
    split at required <;> cases required

end Listing

end Decode

/-- A value is decoded when it is taken out of the tree of the text and nothing
follows the tree. -/
theorem decode_eq_ok_iff {decoder : Decoder ρ α} {text : String} {value : α} :
    decode decoder text = .ok value ↔
      decoder (Document.ofText text).root = .ok value ∧ (Document.ofText text).more = false := by
  rw [decode, bind_eq_ok_iff]
  constructor
  · rintro ⟨taken, take, rest⟩
    split at rest
    · cases rest
    · next atEnd =>
      cases rest
      exact ⟨take, Bool.eq_false_iff.mpr atEnd⟩
  · rintro ⟨take, atEnd⟩
    exact ⟨value, take, by rw [atEnd]; rfl⟩

theorem take_root_of_decode {decoder : Decoder ρ α} {text : String} {value : α}
    (decoded : decode decoder text = .ok value) :
    decoder (Document.ofText text).root = .ok value :=
  (decode_eq_ok_iff.mp decoded).1

end Json

namespace Document

open Json (Reading)
open Json.Decode (listing)

theorem obeying_eq_ok_iff {α : Type} {result : Except Violation α} {value : α} :
    obeying result = .ok value ↔ result = .ok value := by
  cases result with
  | ok found => rw [obeying, Except.ok.injEq, Except.ok.injEq]
  | error violation => exact iff_of_false nofun nofun

/-! ## Actions and links -/

theorem valid_of_takeAction {reading : Reading} {action : Action}
    (taken : takeAction reading = .ok action) : action.Valid := by
  rcases bind_eq_ok_iff.mp taken with ⟨entry, -, means⟩
  cases read : Action.ofEntry entry with
  | ok found =>
    rw [read] at means
    cases means
    exact Action.valid_of_ofEntry read
  | error error =>
    rw [read] at means
    cases means

/-- What holds of the fields of a link, as far as it is not checked later. -/
def LinkFields.Valid (fields : LinkFields) : Prop := ∀ action ∈ fields.actions, action.Valid

theorem LinkFields.valid_of_put {field : String} {reading : Reading} {fields after : LinkFields}
    (valid : fields.Valid) (put : fields.put field reading = .ok after) : after.Valid := by
  unfold LinkFields.put at put
  repeat' split at put
  all_goals
    rcases bind_eq_ok_iff.mp put with ⟨value, take, same⟩
    cases same
  · exact valid
  · exact valid
  · exact Json.Decode.forall_of_list (fun _ _ => valid_of_takeAction) take

theorem wellFormed_of_takeLink {reading : Reading} {link : Link}
    (taken : takeLink reading = .ok link) : link.WellFormed := by
  rcases bind_eq_ok_iff.mp taken with ⟨listing, -, rest⟩
  rcases bind_eq_ok_iff.mp rest with ⟨fields, collected, rest⟩
  rcases bind_eq_ok_iff.mp rest with ⟨text, -, rest⟩
  rcases bind_eq_ok_iff.mp rest with ⟨reference, -, rest⟩
  rcases bind_eq_ok_iff.mp rest with ⟨made, create, same⟩
  cases same
  have start : LinkFields.Valid {} := List.forall_mem_nil _
  have valid : fields.Valid :=
    Json.Decode.Listing.invariant_of_collect (fun _ _ _ _ => LinkFields.valid_of_put) start
      collected
  exact (Link.wellFormed_of_create (obeying_eq_ok_iff.mp create)).withActions valid

/-! ## Passages -/

def PassageFields.WellFormed (fields : PassageFields) : Prop :=
  ∀ link ∈ fields.links, link.WellFormed

theorem PassageFields.wellFormed_of_put {field : String} {reading : Reading}
    {fields after : PassageFields} (wellFormed : fields.WellFormed)
    (put : fields.put field reading = .ok after) : after.WellFormed := by
  unfold PassageFields.put at put
  repeat' split at put
  all_goals
    rcases bind_eq_ok_iff.mp put with ⟨value, take, same⟩
    cases same
  · exact wellFormed
  · exact wellFormed
  · exact wellFormed
  · exact wellFormed
  · exact Json.Decode.forall_of_list (fun _ _ => wellFormed_of_takeLink) take

theorem wellFormed_of_takePassage {reading : Reading} {passage : Passage}
    (taken : takePassage reading = .ok passage) : passage.WellFormed := by
  rcases bind_eq_ok_iff.mp taken with ⟨listing, -, rest⟩
  rcases bind_eq_ok_iff.mp rest with ⟨fields, collected, rest⟩
  rcases bind_eq_ok_iff.mp rest with ⟨title, -, rest⟩
  rcases bind_eq_ok_iff.mp rest with ⟨content, -, rest⟩
  rcases bind_eq_ok_iff.mp rest with ⟨made, create, addLinks⟩
  have start : PassageFields.WellFormed {} := List.forall_mem_nil _
  have links : fields.WellFormed :=
    Json.Decode.Listing.invariant_of_collect (fun _ _ _ _ => PassageFields.wellFormed_of_put) start
      collected
  have created := Passage.wellFormed_of_create (obeying_eq_ok_iff.mp create)
  exact (created.withAttributes fields.mood fields.singleVisit).addLinks links
    (obeying_eq_ok_iff.mp addLinks)

/-! ## Stories -/

structure StoryFields.WellFormed (fields : StoryFields) : Prop where
  opening : ∀ passage, fields.opening = some passage → passage.WellFormed
  passages : ∀ entry ∈ fields.passages, entry.2.WellFormed

theorem StoryFields.wellFormed_of_put {field : String} {reading : Reading}
    {fields after : StoryFields} (wellFormed : fields.WellFormed)
    (put : fields.put field reading = .ok after) : after.WellFormed := by
  unfold StoryFields.put at put
  repeat' split at put
  all_goals
    rcases bind_eq_ok_iff.mp put with ⟨value, take, same⟩
    cases same
  · exact ⟨wellFormed.opening, wellFormed.passages⟩
  · refine ⟨?_, wellFormed.passages⟩
    rintro passage ⟨⟩
    exact wellFormed_of_takePassage take
  · exact ⟨wellFormed.opening,
      Json.Decode.forall_of_map (fun _ _ => wellFormed_of_takePassage) take⟩

theorem wellFormed_of_addFiled {story after : Story} (wellFormed : story.WellFormed)
    {entries : List (String × Passage)} (arePassages : ∀ entry ∈ entries, entry.2.WellFormed)
    (added : addFiled story entries = .ok after) : after.WellFormed := by
  induction entries generalizing story with
  | nil =>
    cases added
    exact wellFormed
  | cons entry entries ih =>
    rcases List.forall_mem_cons.mp arePassages with ⟨isPassage, others⟩
    unfold addFiled at added
    split at added
    · cases added
    · split at added
      · cases added
      · next next add => exact ih (wellFormed.add? isPassage add) others added

/-- A story is well-formed when it is made of its fields and then accepted as it
is. -/
theorem wellFormed_of_takeStoryWith {accept : Except Violation Story → Except Problem Story}
    (asItIs : ∀ made story, accept made = .ok story → made = .ok story) {reading : Reading}
    {story : Story} (taken : takeStoryWith accept reading = .ok story) : story.WellFormed := by
  rcases bind_eq_ok_iff.mp taken with ⟨listing, -, rest⟩
  rcases bind_eq_ok_iff.mp rest with ⟨fields, collected, rest⟩
  rcases bind_eq_ok_iff.mp rest with ⟨title, -, rest⟩
  rcases bind_eq_ok_iff.mp rest with ⟨opening, required, accepted⟩
  rcases bind_eq_ok_iff.mp (asItIs _ story accepted) with ⟨start, create, added⟩
  have empty : StoryFields.WellFormed {} := ⟨nofun, List.forall_mem_nil _⟩
  have wellFormed : fields.WellFormed :=
    Json.Decode.Listing.invariant_of_collect (fun _ _ _ _ => StoryFields.wellFormed_of_put) empty
      collected
  have isOpening := wellFormed.opening opening (Json.Decode.Listing.require_eq_ok required)
  refine wellFormed_of_addFiled (Story.wellFormed_of_create isOpening create) ?_ added
  intro entry member
  exact wellFormed.passages entry (mem_of_mem_ascendingBy _ entry _ member)

/-! ## Games and snapshots -/

def GameFields.WellFormed (fields : GameFields) : Prop :=
  ∀ story, fields.story = some story → story.WellFormed

theorem GameFields.wellFormed_of_put {field : String} {reading : Reading}
    {fields after : GameFields} (wellFormed : fields.WellFormed)
    (put : fields.put field reading = .ok after) : after.WellFormed := by
  unfold GameFields.put at put
  repeat' split at put
  all_goals
    rcases bind_eq_ok_iff.mp put with ⟨value, take, same⟩
    cases same
  · exact wellFormed
  · rintro story ⟨⟩
    exact wellFormed_of_takeStoryWith (fun _ _ => obeying_eq_ok_iff.mp) take
  · exact wellFormed

/-- The story of a game is well-formed. -/
theorem wellFormed_of_takeGame {reading : Reading} {game : Game}
    (taken : takeGame reading = .ok game) : game.story.WellFormed := by
  rcases bind_eq_ok_iff.mp taken with ⟨listing, -, rest⟩
  rcases bind_eq_ok_iff.mp rest with ⟨fields, collected, rest⟩
  rcases bind_eq_ok_iff.mp rest with ⟨player, -, rest⟩
  rcases bind_eq_ok_iff.mp rest with ⟨story, required, rest⟩
  rcases bind_eq_ok_iff.mp rest with ⟨goals, -, same⟩
  cases same
  have start : GameFields.WellFormed {} := nofun
  have wellFormed : fields.WellFormed :=
    Json.Decode.Listing.invariant_of_collect (fun _ _ _ _ => GameFields.wellFormed_of_put) start
      collected
  exact wellFormed story (Json.Decode.Listing.require_eq_ok required)

def SessionFields.WellFormed (fields : SessionFields) : Prop :=
  ∀ game, fields.game = some game → game.story.WellFormed

theorem SessionFields.wellFormed_of_put {field : String} {reading : Reading}
    {fields after : SessionFields} (wellFormed : fields.WellFormed)
    (put : fields.put field reading = .ok after) : after.WellFormed := by
  unfold SessionFields.put at put
  repeat' split at put
  all_goals
    rcases bind_eq_ok_iff.mp put with ⟨value, take, same⟩
    cases same
  · rintro game ⟨⟩
    exact wellFormed_of_takeGame take
  · exact wellFormed
  · exact wellFormed

theorem wellFormed_of_takeSnapshot {reading : Reading} {kept : Snapshot}
    (taken : takeSnapshot reading = .ok kept) : kept.game.story.WellFormed := by
  rcases bind_eq_ok_iff.mp taken with ⟨listing, -, rest⟩
  rcases bind_eq_ok_iff.mp rest with ⟨fields, collected, rest⟩
  rcases bind_eq_ok_iff.mp rest with ⟨game, required, rest⟩
  rcases bind_eq_ok_iff.mp rest with ⟨passage, -, rest⟩
  rcases bind_eq_ok_iff.mp rest with ⟨visited, -, same⟩
  cases same
  have start : SessionFields.WellFormed {} := nofun
  have wellFormed : fields.WellFormed :=
    Json.Decode.Listing.invariant_of_collect (fun _ _ _ _ => SessionFields.wellFormed_of_put) start
      collected
  exact wellFormed game (Json.Decode.Listing.require_eq_ok required)

/-- The story that a document of a session tells of is well-formed. -/
theorem wellFormed_of_decode {text : String} {kept : Snapshot}
    (decoded : Json.decode takeSnapshot text = .ok kept) : kept.game.story.WellFormed :=
  wellFormed_of_takeSnapshot (Json.take_root_of_decode decoded)

/-- A story in a document of its own is accepted as it is made. -/
theorem made_of_accepted (made : Except Violation Story) (story : Story)
    (accepted : (match made with
      | .ok story => .ok story
      | .error violation => .error (.refused (.whole violation)) : Except Problem Story) =
        .ok story) : made = .ok story := by
  cases made with
  | ok found =>
    cases accepted
    rfl
  | error violation => cases accepted

end Document

/-- A story that is read from a document is decoded from its text. -/
theorem Story.decode_of_ofJson {text : String} {story : Story}
    (read : Story.ofJson text = .ok story) :
    Json.decode Document.takeWholeStory text = .ok story := by
  unfold Story.ofJson at read
  split at read
  · cases read
  · next found decoded =>
    cases read
    exact decoded

theorem Story.take_root_of_ofJson {text : String} {story : Story}
    (read : Story.ofJson text = .ok story) :
    Document.takeWholeStory (Json.Document.ofText text).root = .ok story :=
  Json.take_root_of_decode (Story.decode_of_ofJson read)

/-- A story that is read from a document is well-formed. -/
theorem Story.wellFormed_of_ofJson {text : String} {story : Story}
    (read : Story.ofJson text = .ok story) : story.WellFormed :=
  Document.wellFormed_of_takeStoryWith Document.made_of_accepted (Story.take_root_of_ofJson read)

end Gamebook
