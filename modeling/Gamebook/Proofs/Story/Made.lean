import Gamebook.Proofs.Document.Soundness
import Gamebook.Proofs.Script.Acceptance

namespace Gamebook

/-!
# The stories that can be made

A story comes from a script, from a document, or from the hands of an author who
starts with an opening and edits.  Each way checks something else: the readers
check whole texts, and an edit checks only what it changes.  All of them are
counted here as steps, and what is made by such steps is exactly what is
well-formed.

The parts that an author brings along are made by steps of their own, so nothing
is assumed of a link or a passage but how it came to be.
-/

/-! ## Actions and links -/

/-- The actions that are read, from their short form or from a document. -/
inductive Action.Made : Action → Prop
  | ofShort {token : String} {action : Action} (read : ofShort token = .ok action) : Made action
  | ofTag {tag : String} {payload : Payload} {action : Action}
      (read : ofTag tag payload = .ok action) : Made action
  | ofEntry {entry : TaggedEntry} {action : Action} (read : ofEntry entry = .ok action) :
      Made action

theorem Action.made_iff_valid {action : Action} : action.Made ↔ action.Valid := by
  constructor
  · intro made
    cases made with
    | ofShort read => exact valid_of_ofShort read
    | ofTag read => exact valid_of_ofTag read
    | ofEntry read => exact valid_of_ofEntry read
  · intro valid
    exact .ofShort (ofShort_short valid)

/-- The links that can be made. -/
inductive Link.Made : Link → Prop
  | create {text reference : String} {link : Link} (created : create text reference = .ok link) :
      Made link
  | addAction {link : Link} {action : Action} (made : Made link) (isMade : action.Made) :
      Made (link.addAction action)
  | withActions {link : Link} {actions : List Action} (made : Made link)
      (areMade : ∀ action ∈ actions, action.Made) : Made (link.withActions actions)
  | decoded {text : String} {link : Link}
      (decoded : Json.decode Document.takeLink text = .ok link) : Made link

theorem Link.made_iff_wellFormed {link : Link} : link.Made ↔ link.WellFormed := by
  constructor
  · intro made
    induction made with
    | create created => exact wellFormed_of_create created
    | @addAction link action made isMade wellFormed =>
      refine wellFormed.withActions (List.forall_mem_append.mpr ⟨wellFormed.actions, ?_⟩)
      exact List.forall_mem_singleton.mpr (Action.made_iff_valid.mp isMade)
    | withActions made areMade wellFormed =>
      exact wellFormed.withActions fun action member =>
        Action.made_iff_valid.mp (areMade action member)
    | decoded decoded =>
      exact Document.wellFormed_of_takeLink (Json.take_root_of_decode decoded)
  · intro wellFormed
    have bare : Made ⟨link.key, []⟩ := .create (create_of_wellFormed wellFormed)
    exact bare.withActions fun action member =>
      Action.made_iff_valid.mpr (wellFormed.actions action member)

/-! ## Passages -/

/-- An edit of a passage with parts that can be made. -/
def Passage.Edit.Made : Passage.Edit → Prop
  | .addLink link => link.Made
  | .content _ | .mood _ | .singleVisit _ | .dropLinksTo _ => True

theorem Passage.Edit.made_iff_wellFormed {edit : Passage.Edit} : edit.Made ↔ edit.WellFormed := by
  cases edit with
  | addLink link => exact Link.made_iff_wellFormed
  | _ => exact Iff.rfl

/-- The passages that can be made.  An edit that is refused leaves the passage as it
was. -/
inductive Passage.Made : Passage → Prop
  | create {title content : String} {passage : Passage}
      (created : create title content = .ok passage) : Made passage
  | edit {passage after : Passage} {edit : Edit} (made : Made passage) (parts : edit.Made)
      (edited : passage.edit edit = .ok after) : Made after
  | decoded {text : String} {passage : Passage}
      (decoded : Json.decode Document.takePassage text = .ok passage) : Made passage

theorem Passage.Made.addLinks {passage after : Passage} (made : passage.Made) {links : List Link}
    (areMade : ∀ link ∈ links, link.Made) (added : passage.addLinks links = .ok after) :
    after.Made := by
  induction links generalizing passage with
  | nil =>
    cases added
    exact made
  | cons link links ih =>
    rcases List.forall_mem_cons.mp areMade with ⟨isMade, others⟩
    rcases bind_eq_ok_iff.mp added with ⟨between, first, rest⟩
    have parts : (Edit.addLink link).Made := isMade
    exact ih (made.edit parts first) others rest

theorem Passage.made_iff_wellFormed {passage : Passage} : passage.Made ↔ passage.WellFormed := by
  constructor
  · intro made
    induction made with
    | create created => exact wellFormed_of_create created
    | edit made parts edited wellFormed =>
      exact (wellFormed.edit (Edit.made_iff_wellFormed.mp parts) edited).1
    | decoded decoded =>
      exact Document.wellFormed_of_takePassage (Json.take_root_of_decode decoded)
  · intro wellFormed
    have plain := Made.create (create_of_wellFormed wellFormed)
    have withMood : Made { passage with singleVisit := false, links := [] } :=
      plain.edit (show Edit.Made (.mood passage.mood) from trivial) rfl
    have withVisits : Made { passage with links := [] } :=
      withMood.edit (show Edit.Made (.singleVisit passage.singleVisit) from trivial) rfl
    refine withVisits.addLinks ?_ (addLinks_of_nodup wellFormed.keys)
    exact fun link member => Link.made_iff_wellFormed.mpr (wellFormed.links link member)

/-! ## Stories -/

/-- An edit of a story with parts that can be made. -/
def Story.Edit.Made : Story.Edit → Prop
  | .add new => new.Made
  | .passage _ edit | .opening edit => edit.Made
  | .remove _ | .dropLinksTo _ => True

theorem Story.Edit.made_iff_wellFormed {edit : Story.Edit} : edit.Made ↔ edit.WellFormed := by
  cases edit with
  | add new => exact Passage.made_iff_wellFormed
  | passage title edit => exact Passage.Edit.made_iff_wellFormed
  | opening edit => exact Passage.Edit.made_iff_wellFormed
  | _ => exact Iff.rfl

/-- The stories that can be made.  An edit that is refused is a step too, and it
leaves the story as it was. -/
inductive Story.Made : Story → Prop
  | create {title : String} {opening : Passage} {story : Story} (isMade : opening.Made)
      (created : create title opening = .ok story) : Made story
  | ofScript {source : String} {story : Story} (read : ofScript source = .ok story) : Made story
  | ofJson {text : String} {story : Story} (read : ofJson text = .ok story) : Made story
  | edit {story : Story} {edit : Edit} (made : Made story) (parts : edit.Made) :
      Made (story.edit edit)

/-- A story that is read from a script is well-formed. -/
theorem Story.wellFormed_of_ofScript {source : String} {story : Story}
    (read : ofScript source = .ok story) : story.WellFormed :=
  Script.wellFormed_of_storyLines (Script.storyLines_of_readLines read)

theorem Story.Made.edits {story : Story} (made : story.Made) {edits : List Edit}
    (parts : ∀ edit ∈ edits, edit.Made) : (edits.foldl Story.edit story).Made := by
  induction edits generalizing story with
  | nil => exact made
  | cons edit edits ih =>
    rcases List.forall_mem_cons.mp parts with ⟨first, others⟩
    exact ih (made.edit first) others

/-- Passages that are all added are added by edits. -/
theorem Story.foldl_edit_add {story after : Story} {passages : List Passage}
    (added : passages.foldlM Story.add? story = some after) :
    (passages.map Edit.add).foldl Story.edit story = after := by
  induction passages generalizing story with
  | nil => exact Option.some.inj added
  | cons passage passages ih =>
    rw [List.foldlM_cons] at added
    rcases Option.bind_eq_some_iff.mp added with ⟨next, first, rest⟩
    rw [List.map_cons, List.foldl_cons, Story.edit, first, Option.getD_some]
    exact ih rest

/-- The stories that can be made are exactly the well-formed ones. -/
theorem Story.made_iff_wellFormed {story : Story} : story.Made ↔ story.WellFormed := by
  constructor
  · intro made
    induction made with
    | create isMade created =>
      exact wellFormed_of_create (Passage.made_iff_wellFormed.mp isMade) created
    | ofScript read => exact wellFormed_of_ofScript read
    | ofJson read => exact wellFormed_of_ofJson read
    | edit made parts wellFormed => exact wellFormed.edit (Edit.made_iff_wellFormed.mp parts)
  · intro wellFormed
    have passagesMade : ∀ passage ∈ story.passages, passage.Made :=
      fun passage member => Passage.made_iff_wellFormed.mpr (wellFormed.passages passage member)
    have created : create story.title story.opening = .ok ⟨story.title, story.opening, []⟩ :=
      create_eq_ok_iff.mpr ⟨wellFormed.title, rfl⟩
    have added : story.stored.foldlM add? ⟨story.title, story.opening, []⟩ = some story :=
      foldlM_add?_create_iff.mpr
        ⟨wellFormed.titles_nodup, rfl, rfl, wellFormed.keyed, .refl _, wellFormed.ordered⟩
    have start : Made ⟨story.title, story.opening, []⟩ :=
      .create (passagesMade story.opening List.mem_cons_self) created
    rw [← foldl_edit_add added]
    refine start.edits fun edit member => ?_
    rcases List.mem_map.mp member with ⟨passage, stored, rfl⟩
    exact passagesMade passage (List.mem_cons_of_mem _ stored)

/-- Every story that can be made keeps the rules for its texts and links, gives no
title twice, and has kept each stored passage under its own title and nothing else. -/
theorem Story.filed_of_made {story : Story} (made : story.Made) :
    story.WellFormed ∧ story.titles.Nodup ∧
      (∀ entry ∈ story.filed, entry.1 = .toPassage entry.2.title) ∧
      ∀ key passage, story.stored? key = some passage ↔
        passage ∈ story.stored ∧ key = .toPassage passage.title := by
  have wellFormed := made_iff_wellFormed.mp made
  exact ⟨wellFormed, wellFormed.titles_nodup, wellFormed.keyed,
    fun _ _ => wellFormed.stored?_eq_some_iff⟩

/-- What an author does to a story.  Three of the edits are refused: the first dock is
the opening, the ferry is linked to, and its second link repeats the first. -/
def harborEdits : List Story.Edit :=
  [.add ⟨"Ferry", "A ferry waits.", .calm, true, []⟩,
    .add ⟨"Dock", "Another dock.", .none, false, []⟩,
    .opening (.addLink ⟨⟨"Board", "Ferry"⟩, [.change .gold (-5), .take "Ticket"]⟩),
    .remove (.toPassage "Ferry"),
    .passage "Dock" (.addLink ⟨⟨"Board", "Ferry"⟩, []⟩),
    .passage "Ferry" (.content "The ferry leaves.")]

def harbor : Story :=
  harborEdits.foldl Story.edit ⟨"Harbor", ⟨"Dock", "Gulls.", .none, false, []⟩, []⟩

theorem made_harbor : harbor.Made := by
  have opening : Passage.Made ⟨"Dock", "Gulls.", .none, false, []⟩ :=
    Passage.made_iff_wellFormed.mpr (by decide)
  have start : Story.Made ⟨"Harbor", ⟨"Dock", "Gulls.", .none, false, []⟩, []⟩ :=
    .create opening (Story.create_eq_ok_iff.mpr ⟨by decide, rfl⟩)
  have parts : ∀ edit ∈ harborEdits, edit.WellFormed := by decide
  exact start.edits fun edit member => Story.Edit.made_iff_wellFormed.mpr (parts edit member)

theorem Story.filed_of_made_harbor :
    harbor.Made ∧ harbor.WellFormed ∧ harbor.titles.Nodup ∧
      (∀ entry ∈ harbor.filed, entry.1 = .toPassage entry.2.title) ∧
      ∀ key passage, harbor.stored? key = some passage ↔
        passage ∈ harbor.stored ∧ key = .toPassage passage.title :=
  ⟨made_harbor, Story.filed_of_made made_harbor⟩

end Gamebook
