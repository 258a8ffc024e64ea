import Mathlib.Data.List.Perm.Basic
import Gamebook.Proofs.Document.Members
import Gamebook.Proofs.Story.Made
import Gamebook.Report

namespace Gamebook

/-!
# The order in which passages arrive

A story holds its passages in the order of their titles.  They may be added one by one,
stand in the blocks of a script, or be the members of an object in a document, and in
each of these forms they may stand in any order as long as no title is there twice.

In a script the first block is the opening, so it stays where it is; a blank line behind
a block keeps it apart from the next one, whichever that is.  In a document the order
matters only between members with one key, of which the last is kept.
-/

/-- Says that stories cannot be told apart by what the library makes of them. -/
structure Story.Indistinct (a b : Story) : Prop where
  identical : a.identical b = true
  script : a.script = b.script
  plain : a.plain = b.plain
  document : a.toJson = b.toJson
  report : Report.ofStory a = Report.ofStory b

theorem Story.WellFormed.indistinct {story : Story} (wellFormed : story.WellFormed) :
    story.Indistinct story :=
  ⟨identical_self wellFormed, rfl, rfl, rfl, rfl⟩

/-! ## Passages that are added -/

/-- Passages with different titles are added in any order, and the story is the same. -/
theorem Story.exists_foldlM_add? {title : String} {opening : Passage}
    {passages others : List Passage}
    (distinct : ((opening :: passages).map Passage.title).Nodup) (same : passages.Perm others) :
    ∃ story, passages.foldlM Story.add? ⟨title, opening, []⟩ = some story ∧
      others.foldlM Story.add? ⟨title, opening, []⟩ = some story := by
  have apart := (List.nodup_cons.mp distinct).2
  have stored : (ascendingBy Passage.title passages).Perm passages := ascendingBy_perm apart
  have ordered := ascendingBy_ascending Passage.title passages
  have distinct' : ((opening :: others).map Passage.title).Nodup :=
    ((same.cons opening).map Passage.title).nodup_iff.mp distinct
  have keyed := keyedByTitle_filing title opening (ascendingBy Passage.title passages)
  refine ⟨⟨title, opening, filing (ascendingBy Passage.title passages)⟩, ?_, ?_⟩
  · rw [foldlM_add?_create_iff, stored_filing]
    exact ⟨distinct, rfl, rfl, keyed, stored, ordered⟩
  · rw [foldlM_add?_create_iff, stored_filing]
    exact ⟨distinct', rfl, rfl, keyed, stored.trans same, ordered⟩

theorem Story.wellFormed_of_foldlM_add? {story after : Story} (wellFormed : story.WellFormed)
    {passages : List Passage} (areWellFormed : ∀ passage ∈ passages, passage.WellFormed)
    (added : passages.foldlM Story.add? story = some after) : after.WellFormed := by
  induction passages generalizing story with
  | nil => exact Option.some.inj added ▸ wellFormed
  | cons passage passages ih =>
    rcases List.forall_mem_cons.mp areWellFormed with ⟨first, others⟩
    rw [List.foldlM_cons] at added
    rcases Option.bind_eq_some_iff.mp added with ⟨next, add, rest⟩
    exact ih (wellFormed.add? first add) others rest

/-! ## Blocks of a script -/

namespace Script

/-- Says that a text ends with a whole line, and that this line is blank. -/
structure EndsBlank (text : List Char) : Prop where
  whole : text.getLast? = some '\n'
  blank : ∀ last, (Text.lines text).getLast? = some last → Text.isBlank last = true

/-- Says that a text is the beginning of a script, up to the blank line behind its opening
passage or one further on. -/
structure HoldsOpening (text : List Char) : Prop where
  endsBlank : EndsBlank text
  solid : ∃ title second behind, Text.lines text = title :: second :: behind ∧
    ∃ line ∈ behind, Text.isBlank line = false

theorem EndsBlank.lines_append {text : List Char} (ends : EndsBlank text) (rest : List Char) :
    Text.lines (text ++ rest) = Text.lines text ++ Text.lines rest := by
  apply Text.lines_append
  intro c last
  rw [ends.whole, Option.some_inj] at last
  exact last.symm

theorem lines_flatten {texts : List (List Char)} (ends : ∀ text ∈ texts, EndsBlank text) :
    Text.lines texts.flatten = texts.flatMap Text.lines := by
  induction texts with
  | nil => rfl
  | cons text texts ih =>
    rcases List.forall_mem_cons.mp ends with ⟨first, others⟩
    rw [List.flatten_cons, List.flatMap_cons, first.lines_append, ih others]

/-- No line of a passage is blank. -/
theorem isBlank_of_passageLines {lines : List (List Char)} {passage : Passage}
    (areLines : PassageLines lines passage) {line : List Char} (member : line ∈ lines) :
    Text.isBlank line = false := by
  rcases exists_header_of_passageLines areLines with ⟨title, body, rfl, continues⟩
  rcases List.mem_cons.mp member with here | later
  · rw [here]
    exact (header_opens 0 title).1
  · have goesOn := continues line later 0
    rw [Line.continuesBlock, Bool.and_eq_true, Bool.not_eq_true'] at goesOn
    exact goesOn.1

/-- Blank lines are the lines of no passage. -/
theorem eq_nil_of_isBlank {lines : List (List Char)} {passages : List Passage}
    (blank : ∀ line ∈ lines, Text.isBlank line = true) (areLines : PassagesLines lines passages) :
    passages = [] := by
  induction areLines with
  | nil => rfl
  | blank isBlank more ih => exact ih (List.forall_mem_cons.mp blank).2
  | @passage block lines passage passages isPassage more ih =>
    rcases exists_header_of_passageLines isPassage with ⟨title, body, split, -⟩
    have member : headerMark ++ title ∈ block := by
      rw [split]
      exact List.mem_cons_self
    have solid := isBlank_of_passageLines isPassage member
    rw [blank _ (List.mem_append_left lines member)] at solid
    cases solid

theorem isBlank_of_passagesLines_nil {lines : List (List Char)} (areLines : PassagesLines lines [])
    {line : List Char} (member : line ∈ lines) : Text.isBlank line = true := by
  generalize none : ([] : List Passage) = passages at areLines
  induction areLines with
  | nil => cases member
  | blank isBlank more ih =>
    rcases List.mem_cons.mp member with here | later
    · rw [here]
      exact isBlank
    · exact ih later none
  | passage isPassage more ih => cases none

theorem PassagesLines.append {first second : List (List Char)} {passages others : List Passage}
    (areFirst : PassagesLines first passages) (areSecond : PassagesLines second others) :
    PassagesLines (first ++ second) (passages ++ others) := by
  induction areFirst with
  | nil => exact areSecond
  | blank isBlank more ih => exact .blank isBlank ih
  | passage isPassage more ih =>
    rw [List.append_assoc]
    exact .passage isPassage ih

/-- Lines of passages are cut behind a blank line, because no passage goes on behind it. -/
theorem exists_parts_of_passagesLines {first second : List (List Char)} {passages : List Passage}
    (blank : ∀ last, first.getLast? = some last → Text.isBlank last = true)
    (areLines : PassagesLines (first ++ second) passages) :
    ∃ before after, passages = before ++ after ∧ PassagesLines first before ∧
      PassagesLines second after := by
  generalize whole : first ++ second = lines at areLines
  induction areLines generalizing first with
  | nil =>
    rcases List.append_eq_nil_iff.mp whole with ⟨rfl, rfl⟩
    exact ⟨[], [], rfl, .nil, .nil⟩
  | @blank line lines passages isBlank more ih =>
    cases first with
    | nil =>
      rw [List.nil_append] at whole
      rw [whole]
      exact ⟨[], passages, rfl, .nil, .blank isBlank more⟩
    | cons text first =>
      rcases List.cons.inj whole with ⟨rfl, rest⟩
      have blankLater : ∀ last, first.getLast? = some last → Text.isBlank last = true := by
        intro last isLast
        apply blank last
        rw [List.getLast?_cons, isLast, Option.getD_some]
      rcases ih blankLater rest with ⟨before, after, rfl, areBefore, areAfter⟩
      exact ⟨before, after, rfl, .blank isBlank areBefore, areAfter⟩
  | @passage block lines passage passages isPassage more ih =>
    rcases List.append_eq_append_iff.mp whole with
      ⟨rest, isBlock, isSecond⟩ | ⟨rest, isFirst, isRest⟩
    · -- The cut would be within the block, whose lines are not blank.
      rcases List.eq_nil_or_concat first with empty | ⟨front, last, isFirst⟩
      · rw [empty, List.nil_append] at isBlock
        rw [empty, isSecond, ← isBlock]
        exact ⟨[], passage :: passages, rfl, .nil, .passage isPassage more⟩
      · rw [List.concat_eq_append] at isFirst
        have member : last ∈ block := by
          rw [isBlock, isFirst]
          exact List.mem_append_left rest (List.mem_append_right front List.mem_cons_self)
        have solid := isBlank_of_passageLines isPassage member
        rw [blank last (by rw [isFirst, List.getLast?_concat])] at solid
        cases solid
    · have blankLater : ∀ last, rest.getLast? = some last → Text.isBlank last = true := by
        intro last isLast
        apply blank last
        rw [isFirst, List.getLast?_append, isLast, Option.some_or]
      rcases ih blankLater isRest.symm with ⟨before, after, rfl, areBefore, areAfter⟩
      rw [isFirst]
      exact ⟨passage :: before, after, rfl, .passage isPassage areBefore, areAfter⟩

/-- Texts that end with a blank line have the lines of passages, each its own. -/
theorem exists_parts_of_texts {texts : List (List Char)} (ends : ∀ text ∈ texts, EndsBlank text)
    {passages : List Passage} (areLines : PassagesLines (texts.flatMap Text.lines) passages) :
    ∃ parts, passages = parts.flatten ∧
      List.Forall₂ (fun text part => PassagesLines (Text.lines text) part) texts parts := by
  induction texts generalizing passages with
  | nil =>
    rw [eq_nil_of_isBlank (List.forall_mem_nil _) areLines]
    exact ⟨[], rfl, .nil⟩
  | cons text texts ih =>
    rcases List.forall_mem_cons.mp ends with ⟨first, others⟩
    rw [List.flatMap_cons] at areLines
    rcases exists_parts_of_passagesLines first.blank areLines with
      ⟨before, after, rfl, areBefore, areAfter⟩
    rcases ih others areAfter with ⟨parts, rfl, areParts⟩
    exact ⟨before :: parts, rfl, .cons areBefore areParts⟩

theorem passagesLines_of_texts {texts : List (List Char)} {parts : List (List Passage)}
    (areParts : List.Forall₂ (fun text part => PassagesLines (Text.lines text) part) texts parts) :
    PassagesLines (texts.flatMap Text.lines) parts.flatten := by
  induction areParts with
  | nil => exact .nil
  | cons isPart more ih => exact isPart.append ih

/-- The lines that hold the opening are those of some passages, of which it is the first. -/
theorem HoldsOpening.exists_parts {head : List Char} (holds : HoldsOpening head)
    {rest : List (List Char)} {opening : Passage} {passages : List Passage}
    {title second : List Char} {lines : List (List Char)}
    (whole : Text.lines head ++ rest = title :: second :: lines)
    (areLines : PassagesLines lines (opening :: passages)) :
    ∃ behind front after, Text.lines head = title :: second :: behind ∧
      passages = front ++ after ∧ PassagesLines behind (opening :: front) ∧
        PassagesLines rest after := by
  rcases holds.solid with ⟨first, next, behind, isHead, line, member, solid⟩
  rw [isHead] at whole
  rcases List.cons.inj whole with ⟨rfl, others⟩
  rcases List.cons.inj others with ⟨rfl, isRest⟩
  have blank : ∀ last, behind.getLast? = some last → Text.isBlank last = true := by
    intro last isLast
    apply holds.endsBlank.blank last
    rw [isHead, List.getLast?_cons, List.getLast?_cons, isLast, Option.getD_some, Option.getD_some]
  rw [← isRest] at areLines
  rcases exists_parts_of_passagesLines blank areLines with
    ⟨before, after, split, areBefore, areAfter⟩
  cases before with
  | nil =>
    rw [isBlank_of_passagesLines_nil areBefore member] at solid
    cases solid
  | cons passage front =>
    rcases List.cons.inj split with ⟨rfl, isFront⟩
    exact ⟨behind, front, after, isHead, isFront, areBefore, areAfter⟩

/-- The blocks behind the opening stand in any order, and the story is the same. -/
theorem readLines_of_perm {head : List Char} {texts others : List (List Char)} {story : Story}
    (opens : HoldsOpening head) (ends : ∀ text ∈ texts, EndsBlank text) (same : texts.Perm others)
    (read : readLines (Text.lines (head ++ texts.flatten)) = .ok story) :
    readLines (Text.lines (head ++ others.flatten)) = .ok story := by
  have ends' : ∀ text ∈ others, EndsBlank text := fun text member =>
    ends text (same.mem_iff.mpr member)
  rw [opens.endsBlank.lines_append, lines_flatten ends']
  rw [opens.endsBlank.lines_append, lines_flatten ends] at read
  have areLines := storyLines_of_readLines read
  apply readLines_of_storyLines
  generalize whole : Text.lines head ++ texts.flatMap Text.lines = lines at areLines
  induction areLines with
  | @story title second rest opening passages stored isTitle blank arePassages distinct sameStored
      ordered =>
    rcases opens.exists_parts whole arePassages with
      ⟨behind, front, after, isHead, rfl, areFront, areAfter⟩
    rcases exists_parts_of_texts ends areAfter with ⟨parts, rfl, areParts⟩
    rcases List.perm_comp_forall₂ same.symm areParts with ⟨parts', areParts', sameParts⟩
    have samePassages : (front ++ parts.flatten).Perm (front ++ parts'.flatten) :=
      sameParts.symm.flatten.append_left front
    have distinct' := ((samePassages.cons opening).map Passage.title).nodup_iff.mp distinct
    have areLines' := areFront.append (passagesLines_of_texts areParts')
    rw [isHead]
    exact .story isTitle blank areLines' distinct' (sameStored.trans samePassages) ordered

end Script

/-! ## Members of a document -/

namespace Json
namespace Decode

variable {ρ α σ : Type}

theorem members_eq_ok_iff {value : Decoder ρ α} {readings : List (String × Reading)}
    {entries : List (String × α)} :
    members value readings = .ok entries ↔
      List.Forall₂ (fun member entry => member.1 = entry.1 ∧ value member.2 = .ok entry.2)
        readings entries := by
  induction readings generalizing entries with
  | nil =>
    rw [members, Except.ok.injEq, List.forall₂_nil_left_iff]
    exact eq_comm
  | cons member readings ih =>
    rw [members, bind_eq_ok_iff, List.forall₂_cons_left_iff]
    constructor
    · rintro ⟨first, takeFirst, rest⟩
      rcases bind_eq_ok_iff.mp rest with ⟨others, takeOthers, same⟩
      cases same
      exact ⟨_, _, ⟨rfl, takeFirst⟩, ih.mp takeOthers, rfl⟩
    · rintro ⟨⟨key, first⟩, others, ⟨sameKey, takeFirst⟩, takeOthers, rfl⟩
      refine ⟨first, takeFirst, ?_⟩
      rw [ih.mpr takeOthers, ok_bind, sameKey]

/-- Members that are taken in one order are taken in every order. -/
theorem exists_members_of_perm {value : Decoder ρ α} {readings others : List (String × Reading)}
    (same : readings.Perm others) {entries : List (String × α)}
    (taken : members value readings = .ok entries) :
    ∃ entries', members value others = .ok entries' ∧ entries.Perm entries' := by
  rcases List.perm_comp_forall₂ same.symm (members_eq_ok_iff.mp taken) with
    ⟨entries', taken', sameEntries⟩
  exact ⟨entries', members_eq_ok_iff.mpr taken', sameEntries.symm⟩

theorem Listing.putAll_append {put : String → Reading → σ → Except (Problem ρ) σ}
    (first second : List (String × Reading)) (state : σ) :
    putAll put (first ++ second) state = (do putAll put second (← putAll put first state)) := by
  induction first generalizing state with
  | nil => rfl
  | cons member first ih =>
    rw [List.cons_append, putAll, putAll]
    cases put member.1 member.2 state with
    | ok next => exact ih next
    | error problem => rfl

end Decode
end Json

namespace Document

open Json (Reading)
open Json.Decode (listing)
open Json.Decode.Listing (putAll)

/-- Says that the trees of two texts differ only in the order of the members that are
written for a story's stored passages, and that no title is there twice.  A story may be
written as an object or as the list of its fields. -/
inductive Rearranged : Reading → Reading → Prop
  | named {before after : List (String × Reading)} {entries others : List (String × Reading)}
      {fault : Option Json.Fault} (same : entries.Perm others)
      (distinct : (entries.map Prod.fst).Nodup) :
      Rearranged (.object (before ++ ("passages", .object entries none) :: after) fault)
        (.object (before ++ ("passages", .object others none) :: after) fault)
  | listed {title opening : Reading} {entries others : List (String × Reading)}
      {ending : Json.ListEnd} (same : entries.Perm others)
      (distinct : (entries.map Prod.fst).Nodup) :
      Rearranged (.array [title, opening, .object entries none] ending)
        (.array [title, opening, .object others none] ending)

/-- Says the same of the fields that two trees give for a story. -/
inductive RearrangedFields : List (String × Reading) → List (String × Reading) → Prop
  | fields {before after : List (String × Reading)} {entries others : List (String × Reading)}
      (apart : ∀ member ∈ after, member.1 ∈ storyShape.fields ∧ member.1 ≠ "passages")
      (same : entries.Perm others) (distinct : (entries.map Prod.fst).Nodup) :
      RearrangedFields (before ++ ("passages", .object entries none) :: after)
        (before ++ ("passages", .object others none) :: after)

/-- When nothing is wrong with the first tree as such, nothing is wrong with the second, and
they give the same fields. -/
theorem Rearranged.exists_listing {reading reading' : Reading}
    (rearranged : Rearranged reading reading') {found : Json.Decode.Listing Refusal}
    (listed : listing storyShape reading = .ok found) (whole : found.stop = none) :
    ∃ found' : Json.Decode.Listing Refusal, listing storyShape reading' = .ok found' ∧
      found'.stop = none ∧ RearrangedFields found.given found'.given := by
  cases rearranged with
  | @named before after entries others fault same distinct =>
    rcases known : Json.Decode.knownMembers (ρ := Refusal) storyShape [] fault
      (before ++ ("passages", .object entries none) :: after) with ⟨given, stop⟩
    rw [listing, known] at listed
    cases listed
    cases whole
    rcases Json.Decode.fields_of_knownMembers known with ⟨rfl, rfl, areFields, differ⟩
    have sameKeys : (before ++ ("passages", Reading.object others none) :: after).map Prod.fst =
        (before ++ ("passages", Reading.object entries none) :: after).map Prod.fst := by
      rw [List.map_append, List.map_append, List.map_cons, List.map_cons]
    have known' : Json.Decode.knownMembers (ρ := Refusal) storyShape [] none
        (before ++ ("passages", .object others none) :: after) = _ :=
      Json.Decode.knownMembers_of_nodup
        (fun member listed => (areFields _ (sameKeys ▸ List.mem_map_of_mem listed)).1)
        (fun _ _ => List.not_mem_nil) (by rw [sameKeys]; exact differ)
    refine ⟨_, by rw [listing, known'], rfl, .fields ?_ same distinct⟩
    intro member later
    have inKeys : member.1 ∈ (before ++ ("passages", Reading.object entries none) :: after).map
        Prod.fst :=
      List.mem_map_of_mem (List.mem_append_right before (List.mem_cons_of_mem _ later))
    refine ⟨(areFields _ inKeys).1, ?_⟩
    intro again
    rw [List.map_append, List.map_cons] at differ
    have fresh := (List.nodup_cons.mp (List.nodup_append.mp differ).2.1).1
    have there : member.1 ∈ after.map Prod.fst := List.mem_map_of_mem later
    rw [again] at there
    exact fresh there
  | @listed title opening entries others ending same distinct =>
    cases listed
    refine ⟨_, rfl, whole, ?_⟩
    have fields : RearrangedFields
        ([("title", title), ("openingPassage", opening)] ++ [("passages", .object entries none)])
        ([("title", title), ("openingPassage", opening)] ++ [("passages", .object others none)]) :=
      .fields (List.forall_mem_nil _) same distinct
    exact fields

/-- A field other than the stored passages is put into a record whichever passages it has. -/
theorem StoryFields.put_of_ne {field : String} (known : field ∈ storyShape.fields)
    (different : field ≠ "passages") {reading : Reading} {fields after : StoryFields}
    (put : fields.put field reading = .ok after) :
    after.passages = fields.passages ∧ ∀ passages,
      ({ fields with passages } : StoryFields).put field reading = .ok { after with passages } := by
  unfold StoryFields.put at put ⊢
  split at put
  · next isTitle =>
    rcases bind_eq_ok_iff.mp put with ⟨title, taken, same⟩
    cases same
    refine ⟨rfl, ?_⟩
    intro passages
    rw [if_pos isTitle, taken]
    rfl
  · next noTitle =>
    split at put
    · next isOpening =>
      rcases bind_eq_ok_iff.mp put with ⟨opening, taken, same⟩
      cases same
      refine ⟨rfl, ?_⟩
      intro passages
      rw [if_neg noTitle, if_pos isOpening, taken]
      rfl
    · next noOpening =>
      exfalso
      simp only [storyShape, List.mem_cons, List.not_mem_nil, or_false] at known
      rcases known with same | same | same
      · exact noTitle same
      · exact noOpening same
      · exact different same

theorem StoryFields.putAll_of_ne {given : List (String × Reading)}
    (apart : ∀ member ∈ given, member.1 ∈ storyShape.fields ∧ member.1 ≠ "passages")
    {fields after : StoryFields} (filled : putAll StoryFields.put given fields = .ok after) :
    after.passages = fields.passages ∧ ∀ passages,
      putAll StoryFields.put given { fields with passages } = .ok { after with passages } := by
  induction given generalizing fields with
  | nil =>
    cases filled
    refine ⟨rfl, ?_⟩
    intro passages
    rfl
  | cons member given ih =>
    rcases List.forall_mem_cons.mp apart with ⟨first, others⟩
    rcases bind_eq_ok_iff.mp filled with ⟨next, put, rest⟩
    rcases StoryFields.put_of_ne first.1 first.2 put with ⟨kept, putAgain⟩
    rcases ih others rest with ⟨keptLater, putLater⟩
    refine ⟨keptLater.trans kept, ?_⟩
    intro passages
    rw [putAll, putAgain passages, ok_bind, putLater passages]

/-- The fields of a record are the same but for the order of the passages. -/
theorem RearrangedFields.exists_putAll {given given' : List (String × Reading)}
    (rearranged : RearrangedFields given given') {fields : StoryFields}
    (filled : putAll StoryFields.put given {} = .ok fields) :
    ∃ passages, putAll StoryFields.put given' {} = .ok { fields with passages } ∧
      fields.passages.Perm passages ∧ (fields.passages.map Prod.fst).Nodup := by
  cases rearranged with
  | @fields before after entries others apart same distinct =>
    rw [Json.Decode.Listing.putAll_append] at filled
    rcases bind_eq_ok_iff.mp filled with ⟨middle, filledBefore, rest⟩
    rcases bind_eq_ok_iff.mp rest with ⟨next, put, filledAfter⟩
    rcases bind_eq_ok_iff.mp put with ⟨values, taken, isNext⟩
    cases isNext
    rcases bind_eq_ok_iff.mp taken with ⟨found, takeMembers, isFound⟩
    cases isFound
    rcases Json.Decode.exists_members_of_perm same takeMembers with
      ⟨passages, takeOthers, samePassages⟩
    rcases StoryFields.putAll_of_ne apart filledAfter with ⟨kept, filledAgain⟩
    refine ⟨passages, ?_, ?_, ?_⟩
    · rw [Json.Decode.Listing.putAll_append, filledBefore, ok_bind, putAll]
      have put' : middle.put "passages" (.object others none) = .ok { middle with passages } := by
        rw [StoryFields.put, if_neg (by decide), if_neg (by decide), Json.Decode.map, takeOthers]
        rfl
      rw [put', ok_bind]
      exact filledAgain passages
    · rw [kept]
      exact samePassages
    · rw [kept, Json.Decode.keys_of_members takeMembers]
      exact distinct

theorem takeWholeStory_of_rearranged {reading reading' : Reading}
    (rearranged : Rearranged reading reading') {story : Story}
    (taken : takeWholeStory reading = .ok story) : takeWholeStory reading' = .ok story := by
  rcases bind_eq_ok_iff.mp taken with ⟨found, listed, rest⟩
  rcases bind_eq_ok_iff.mp rest with ⟨fields, collected, rest⟩
  rcases bind_eq_ok_iff.mp rest with ⟨title, hasTitle, rest⟩
  rcases bind_eq_ok_iff.mp rest with ⟨opening, hasOpening, accepted⟩
  rcases bind_eq_ok_iff.mp collected with ⟨filled, filledAll, stopped⟩
  split at stopped
  · next whole =>
    cases stopped
    rcases rearranged.exists_listing listed whole with ⟨found', listed', whole', sameFields⟩
    rcases sameFields.exists_putAll filledAll with ⟨passages, filledAll', same, distinct⟩
    have collected' : found'.collect {} StoryFields.put = .ok { fields with passages } := by
      rw [Json.Decode.Listing.collect, filledAll', ok_bind, whole']
    have isTitle := Json.Decode.Listing.require_eq_ok hasTitle
    have isOpening := Json.Decode.Listing.require_eq_ok hasOpening
    have made : storyOfFields title opening passages =
        storyOfFields title opening fields.passages := by
      rw [storyOfFields, storyOfFields, ascendingBy_eq_of_perm distinct same]
    rw [← made] at accepted
    rw [takeWholeStory, takeStoryWith, listed', ok_bind, collected', ok_bind]
    dsimp only
    rw [isTitle, isOpening, Json.Decode.require_some, ok_bind, Json.Decode.require_some, ok_bind]
    exact accepted
  · cases stopped

end Document

/-- A document whose stored passages are rearranged is read as the same story. -/
theorem Story.ofJson_of_rearranged {text text' : String}
    (rearranged : Document.Rearranged (Json.Document.ofText text).root
      (Json.Document.ofText text').root)
    (sameEnd : (Json.Document.ofText text').more = (Json.Document.ofText text).more)
    {story : Story} (read : Story.ofJson text = .ok story) : Story.ofJson text' = .ok story := by
  rcases Json.decode_eq_ok_iff.mp (Story.decode_of_ofJson read) with ⟨taken, atEnd⟩
  have decoded : Json.decode Document.takeWholeStory text' = .ok story :=
    Json.decode_eq_ok_iff.mpr
      ⟨Document.takeWholeStory_of_rearranged rearranged taken, sameEnd.trans atEnd⟩
  rw [Story.ofJson, decoded]

/-! ## Any order -/

/-- In whichever order passages with different titles are added, stand in a script behind
the opening, or are written in a document, the stories that come of them cannot be told
apart. -/
theorem Story.indistinct_of_perm :
    (∀ (title : String) (opening : Passage) (begun : Story) (passages others : List Passage),
      opening.WellFormed →
      Story.create title opening = .ok begun → (∀ passage ∈ passages, passage.WellFormed) →
        ((opening :: passages).map Passage.title).Nodup → passages.Perm others →
          ∃ story other, passages.foldlM Story.add? begun = some story ∧
            others.foldlM Story.add? begun = some other ∧ story.Indistinct other) ∧
      (∀ (head : List Char) (texts others : List (List Char)) (story : Story),
        Script.HoldsOpening head →
        (∀ text ∈ texts, Script.EndsBlank text) → texts.Perm others →
          Story.ofScript (String.ofList (head ++ texts.flatten)) = .ok story →
            ∃ other, Story.ofScript (String.ofList (head ++ others.flatten)) = .ok other ∧
              story.Indistinct other) ∧
      ∀ (text text' : String) (story : Story),
        Document.Rearranged (Json.Document.ofText text).root (Json.Document.ofText text').root →
        (Json.Document.ofText text').more = (Json.Document.ofText text).more →
          Story.ofJson text = .ok story →
            ∃ other, Story.ofJson text' = .ok other ∧ story.Indistinct other := by
  refine ⟨?_, ?_, ?_⟩
  · intro title opening begun passages others isOpening created areWellFormed distinct same
    have start := wellFormed_of_create isOpening created
    cases (create_eq_ok_iff.mp created).2
    rcases exists_foldlM_add? distinct same with ⟨story, added, addedToo⟩
    have wellFormed := wellFormed_of_foldlM_add? start areWellFormed added
    exact ⟨story, story, added, addedToo, wellFormed.indistinct⟩
  · intro head texts others story opens ends same read
    have wellFormed := wellFormed_of_ofScript read
    rw [ofScript, String.toList_ofList] at read
    refine ⟨story, ?_, wellFormed.indistinct⟩
    rw [ofScript, String.toList_ofList]
    exact Script.readLines_of_perm opens ends same read
  · intro text text' story rearranged sameEnd read
    have wellFormed := wellFormed_of_ofJson read
    exact ⟨story, ofJson_of_rearranged rearranged sameEnd read, wellFormed.indistinct⟩

/-- A story with two passages behind its opening. -/
def fair : Story where
  title := "Fair"
  opening := ⟨"Gate", "Lamps.", .calm, false, [⟨⟨"Enter", "Tent"⟩, [.change .gold (-2)]⟩]⟩
  filed := Story.filing
    [⟨"Tent", "A fortune.", .none, true, [⟨⟨"Leave", "Well"⟩, []⟩]⟩,
      ⟨"Well", "Dark water.", .none, false, []⟩]

theorem wellFormed_fair : fair.WellFormed := by
  decide

/-- The beginning of its script, and what comes behind that. -/
def fairHead : List Char :=
  "Fair\n\n::Gate\n@mood CALM\nLamps.\n[Enter](Tent)\n\x7bG:-2\x7d\n\n".toList

def fairTexts : List (List Char) :=
  ["::Tent\n@single-visit\nA fortune.\n[Leave](Well)\n\n".toList,
    "::Well\r\nDark water.\r\n \r\n".toList]

theorem holdsOpening_fairHead : Script.HoldsOpening fairHead := by
  refine ⟨⟨by decide, ?_⟩, ?_⟩
  · intro last isLast
    have empty : (Text.lines fairHead).getLast? = some [] := by decide
    rw [empty, Option.some_inj] at isLast
    rw [← isLast]
    rfl
  · exact ⟨_, _, _, rfl, _, List.mem_cons_self, by decide⟩

theorem endsBlank_fairTexts : ∀ text ∈ fairTexts, Script.EndsBlank text := by
  have ofLast {text : List Char} (last : List Char) (whole : text.getLast? = some '\n')
      (isLast : (Text.lines text).getLast? = some last) (blank : Text.isBlank last = true) :
      Script.EndsBlank text := by
    refine ⟨whole, ?_⟩
    intro other isOther
    rw [isLast, Option.some_inj] at isOther
    rw [← isOther]
    exact blank
  simp only [fairTexts, List.forall_mem_cons]
  exact ⟨ofLast [] (by decide) (by decide) rfl, ofLast [' '] (by decide) (by decide) rfl,
    List.forall_mem_nil _⟩

theorem ofScript_fair :
    Story.ofScript (String.ofList (fairHead ++ fairTexts.flatten)) = .ok fair := by
  decide +kernel

/-- The two texts of the story as a document. -/
theorem rearranged_fair :
    Document.Rearranged (Json.Document.ofText fair.toJson).root
        (Json.Document.ofText { fair with filed := fair.filed.reverse }.toJson).root ∧
      (Json.Document.ofText { fair with filed := fair.filed.reverse }.toJson).more =
        (Json.Document.ofText fair.toJson).more := by
  have first : Json.Document.ofText fair.toJson = _ :=
    Json.ofText_text (Document.fits_ofStory fair 119) .indented
  have second : Json.Document.ofText { fair with filed := fair.filed.reverse }.toJson = _ :=
    Json.ofText_text (Document.fits_ofStory _ 119) .indented
  rw [first, second]
  refine ⟨?_, rfl⟩
  exact @Document.Rearranged.named [_, _] [] _ _ _ (List.Perm.swap _ _ []) (by decide)

/-- The tent and the well change places, and the story stays the same. -/
theorem Story.indistinct_of_perm_fair :
    (∃ story other, fair.stored.foldlM Story.add? ⟨fair.title, fair.opening, []⟩ = some story ∧
        fair.stored.reverse.foldlM Story.add? ⟨fair.title, fair.opening, []⟩ = some other ∧
        story.Indistinct other) ∧
      Story.ofScript (String.ofList (fairHead ++ fairTexts.flatten)) = .ok fair ∧
      (∃ other, Story.ofScript (String.ofList (fairHead ++ fairTexts.reverse.flatten)) = .ok other ∧
        fair.Indistinct other) ∧
      ∃ other, Story.ofJson { fair with filed := fair.filed.reverse }.toJson = .ok other ∧
        fair.Indistinct other := by
  have created : Story.create fair.title fair.opening = .ok ⟨fair.title, fair.opening, []⟩ := rfl
  have read : Story.ofJson fair.toJson = .ok fair := by
    rw [ofJson, decode_toJson wellFormed_fair]
  refine ⟨?_, ofScript_fair, ?_, ?_⟩
  · exact indistinct_of_perm.1 _ _ _ _ _ (by decide) created (by decide) (by decide)
      (List.reverse_perm _).symm
  · exact indistinct_of_perm.2.1 _ _ _ _ holdsOpening_fairHead endsBlank_fairTexts
      (List.reverse_perm _).symm ofScript_fair
  · exact indistinct_of_perm.2.2 _ _ _ rearranged_fair.1 rearranged_fair.2 read

end Gamebook
