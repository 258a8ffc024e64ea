import Gamebook.Library
import Gamebook.Proofs.Document.RoundTrip
import Gamebook.Proofs.Script.RoundTrip
import Gamebook.Proofs.Story.Made

namespace Gamebook

/-!
# What is read from a file

A story or a saved session is read from the text of a file, and nothing else in the
library matters.  The text of a story has one of two forms.  What is written in a form is
read back in it, and every story that is read is well-formed.
-/

namespace StoryFormat

/-- Says that a text is read as the story in this form. -/
def Reads (format : StoryFormat) (text : String) (story : Story) : Prop :=
  match format with
  | .script => Story.ofScript text = .ok story
  | .document => Story.ofJson text = .ok story

variable {format : StoryFormat} {story : Story}

theorem reads_write (wellFormed : story.WellFormed) : format.Reads (format.write story) story := by
  cases format with
  | script => exact Story.ofScript_of_wellFormed wellFormed
  | document =>
    simp only [Reads, write, Story.ofJson, Story.decode_toJson wellFormed]

theorem wellFormed_of_reads {text : String} (reads : format.Reads text story) :
    story.WellFormed := by
  cases format with
  | script => exact Story.wellFormed_of_ofScript reads
  | document => exact Story.wellFormed_of_ofJson reads

end StoryFormat

namespace Library

theorem accessing_eq_ok_iff {α : Type} {path : String} {result : Except Files.FileError α}
    {value : α} : accessing path result = .ok value ↔ result = .ok value := by
  cases result with
  | ok found => rw [accessing, Except.ok.injEq, Except.ok.injEq]
  | error error => exact iff_of_false error_ne_ok error_ne_ok

theorem decoding_eq_ok_iff {α : Type} {library : Library} {wanted : Wanted} {path text : String}
    {result : Except DecodeFault α} {value : α} :
    library.decoding wanted path text result = .ok value ↔ result = .ok value := by
  cases result with
  | ok found => rw [decoding, Except.ok.injEq, Except.ok.injEq]
  | error fault => exact iff_of_false error_ne_ok error_ne_ok

variable {library : Library} {tree : Files.Tree}

/-! ## Stories -/

theorem readScript_eq_ok_iff {path : String} {story : Story} :
    readScript tree path = .ok story ↔
      ∃ text, tree.read path = .ok text ∧ Story.ofScript text = .ok story := by
  rw [readScript, bind_eq_ok_iff]
  refine exists_congr fun text => and_congr accessing_eq_ok_iff ?_
  cases Story.ofScript text with
  | ok found => exact (Iff.of_eq (Except.ok.injEq ..)).trans (Iff.of_eq (Except.ok.injEq ..)).symm
  | error fault => exact iff_of_false error_ne_ok error_ne_ok

/-- A story is read when the file holds a text that is read as the story. -/
theorem readStory_eq_ok_iff {path : String} {format : StoryFormat} {story : Story} :
    library.readStory tree path format = .ok story ↔
      ∃ text, tree.read path = .ok text ∧ format.Reads text story := by
  cases format with
  | script => exact readScript_eq_ok_iff
  | document =>
    rw [readStory, bind_eq_ok_iff]
    exact exists_congr fun text => and_congr accessing_eq_ok_iff decoding_eq_ok_iff

/-- Reading a story depends on the one file alone. -/
theorem readStory_congr {after : Files.Tree} {path : String}
    (same : after.read path = tree.read path) (format : StoryFormat) :
    library.readStory after path format = library.readStory tree path format := by
  cases format <;> simp only [readStory, readScript, same]

/-- A story is read back from the text of its file. -/
theorem readStory_of_read {path : String} {story : Story} (wellFormed : story.WellFormed)
    {format : StoryFormat} (read : tree.read path = .ok (format.write story)) :
    library.readStory tree path format = .ok story :=
  readStory_eq_ok_iff.mpr ⟨_, read, StoryFormat.reads_write wellFormed⟩

/-- A story that is opened is well-formed. -/
theorem wellFormed_of_openStory {name : String} {story : Story}
    (opened : library.openStory tree name = .ok story) : story.WellFormed := by
  unfold openStory at opened
  split at opened
  · rcases readStory_eq_ok_iff.mp opened with ⟨text, -, reads⟩
    exact StoryFormat.wellFormed_of_reads reads
  · cases opened

/-! ## Saved sessions -/

/-- A session is read when the file holds a text that is read as the session. -/
theorem readSession_eq_ok_iff {path : String} {session : Session} :
    library.readSession tree path = .ok session ↔
      ∃ text, tree.read path = .ok text ∧ Session.ofJson text = .ok session := by
  rw [readSession, bind_eq_ok_iff]
  exact exists_congr fun text => and_congr accessing_eq_ok_iff decoding_eq_ok_iff

/-- Reading a session depends on the one file alone. -/
theorem readSession_congr {after : Files.Tree} {path : String}
    (same : after.read path = tree.read path) :
    library.readSession after path = library.readSession tree path := by
  simp only [readSession, same]

/-- A session that is loaded was read from a text. -/
theorem exists_ofJson_of_loadSession {slot : String} {session : Session}
    (loaded : library.loadSession tree slot = .ok session) :
    ∃ text, Session.ofJson text = .ok session := by
  simp only [loadSession] at loaded
  split at loaded
  · rcases readSession_eq_ok_iff.mp loaded with ⟨text, -, reads⟩
    exact ⟨text, reads⟩
  · cases loaded

end Library

end Gamebook
