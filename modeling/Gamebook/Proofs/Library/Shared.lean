import Gamebook.Proofs.Library.Slots

namespace Gamebook

/-!
# Saved sessions beside stories

A saved session and a story that is a document have names of the same kind: a slug
and one extension.  What keeps them apart are their directories, and nothing makes
sure that these are two.  The settings may name one directory for both, or two paths
that lead to the same place, and then a session that is saved under the slug of a
story takes the place of the story's document.

Apart from this the stories are safe.  Whatever a save does, it changes one file, a
script is never written, and a story that was found before is found in the same
directory after.
-/

namespace Library

open Files (Tree Place Node Name IsName)

/-! ## What is opened -/

section

-- Files are compared by `fileName_eq_iff`, and never by running the slugs.
attribute [local irreducible] storyPath fileName

variable {library : Library} {tree after : Tree}

/-- A file stays where it is, when the directories stay and the file's place does. -/
theorem unmoved_join {directory name : String} {place : Place}
    (holds : tree.Holds directory place)
    (directories : ∀ other, tree.node? other = some .directory →
      after.node? other = some .directory)
    (isName : IsName name)
    (kept : ∀ content changed, after.node? (place ++ [.text name]) = some (.file content changed) ↔
      tree.node? (place ++ [.text name]) = some (.file content changed)) :
    Unmoved tree after (Files.join directory name) := by
  intro content changed
  rw [(holds.of_directories directories).find_join isName, kept, holds.find_join isName]

/-- A story is opened from the first of the files for its slug. -/
theorem exists_first_of_openStory {name : String} {story : Story}
    (opened : library.openStory tree name = .ok story) :
    ∃ format, tree.isFile (library.storyPath name format) = true ∧
      ∀ form, tree.isFile (library.storyPath name form) = true → IsNoLater format form := by
  cases isScript : tree.isFile (library.storyPath name .script) with
  | true => exact ⟨.script, isScript, fun form _ => isNoLater_script form⟩
  | false =>
    cases isDocument : tree.isFile (library.storyPath name .document) with
    | true =>
      refine ⟨.document, isDocument, fun form isFile => ?_⟩
      cases form with
      | script => exact absurd (isScript.symm.trans isFile) Bool.false_ne_true
      | document => exact Nat.le_refl _
    | false =>
      unfold openStory at opened
      simp only [StoryFormat.all, List.find?_cons, isScript, isDocument, List.find?_nil] at opened
      cases opened

/-- A change that leaves the first file alone, and those that would be looked for
before it, does not change what is opened. -/
theorem openStory_of_unmoved {name : String} {format : StoryFormat}
    (isFile : tree.isFile (library.storyPath name format) = true)
    (first : ∀ form, tree.isFile (library.storyPath name form) = true → IsNoLater format form)
    (unmoved : ∀ form, IsNoLater form format → Unmoved tree after (library.storyPath name form)) :
    library.openStory after name = library.openStory tree name := by
  have here := unmoved format (Nat.le_refl _)
  have firstAfter : ∀ form, after.isFile (library.storyPath name form) = true →
      IsNoLater format form := by
    intro form isFileAfter
    rcases Nat.le_total (StoryFormat.all.idxOf form) (StoryFormat.all.idxOf format) with
      earlier | later
    · exact first form ((unmoved form earlier).isFile_iff.mp isFileAfter)
    · exact later
  rw [openStory_of_first isFile first, openStory_of_first (here.isFile_iff.mpr isFile) firstAfter]
  exact readStory_congr (here.read isFile) format

/-! ## A session in the place of a story -/

/-- A saved session is not a story: its first field is unknown to stories. -/
theorem ofJson_toJson_session {session : Session} (wellFormed : session.game.WellFormed) :
    Story.ofJson session.toJson =
      .error (.problem (.unknownField "game" Document.storyShape.fields)) := by
  have fits : (Document.ofSnapshot session.snapshot).Fits Json.greatestDepth :=
    Document.fits_ofSnapshot wellFormed.formed 117
  have refused : Json.decode Document.takeWholeStory session.toJson =
      .error (.unknownField "game" Document.storyShape.fields) := by
    rw [Session.toJson, Json.decode_text Document.takeWholeStory fits]
    rfl
  simp only [Story.ofJson, refused]

/-- Says that a save has put a session in the place of the document of the story with
this name: the slugs are the same, both directories are one place, and there is no
script, which would be opened before the document. -/
structure Displaces (library : Library) (tree : Tree) (saved : Except LibraryError String × Tree)
    (slot name : String) : Prop where
  written : ∃ path, saved.1 = .ok path
  slugs : slug name = slug slot
  together : ∃ place, tree.Holds library.stories place ∧ saved.2.Holds library.saves place
  noScript : tree.isFile (library.storyPath name .script) = false

variable {slot : String} {session : Session}

/-- A save that fails has changed no file, and one that does not has written the
session's file. -/
theorem savingSession_cases (library : Library) (tree : Tree) (slot : String) (session : Session) :
    ((∃ error, (library.savingSession tree slot session).1 = .error error) ∧
        tree.Grown (library.savingSession tree slot session).2) ∨
      (library.savingSession tree slot session).1 = .ok (library.sessionPath slot) ∧
        ∃ place, Filed tree (library.savingSession tree slot session).2 library.saves
          (fileName slot .document) session.toJson place := by
  rcases writes : writing tree (library.sessionPath slot) session.toJson with
    ⟨error | ⟨⟩, left⟩
  · refine .inl ?_
    simp only [savingSession, writes, Tree.andThen]
    exact ⟨⟨error, rfl⟩, grown_of_writing_error writes⟩
  · refine .inr ?_
    simp only [savingSession, writes, Tree.andThen, true_and]
    have written : writeFile tree (library.sessionPath slot) session.toJson = .ok left :=
      Tree.leftBy_eq_ok_iff.mpr writes
    rw [sessionPath_eq] at written
    exact exists_filed_of_writeFile (isName_fileName slot .document) written

/-- A save keeps the directories. -/
theorem directory_of_savingSession {place : Place}
    (isDirectory : tree.node? place = some .directory) :
    (library.savingSession tree slot session).2.node? place = some .directory := by
  rcases savingSession_cases library tree slot session with ⟨-, grown⟩ | ⟨-, _, filed⟩
  · exact grown.directory isDirectory
  · exact filed.directories place isDirectory

/-- A save that has not put a session in the place of the story leaves the story where
it is found. -/
theorem openStory_of_not_displaces {name : String} {story : Story}
    (opened : library.openStory tree name = .ok story)
    (apart : ¬ Displaces library tree (library.savingSession tree slot session) slot name) :
    library.openStory (library.savingSession tree slot session).2 name = .ok story := by
  rcases exists_first_of_openStory opened with ⟨format, isFile, first⟩
  rcases isFile_iff.mp isFile with ⟨content, changed, found⟩
  rw [storyPath_eq] at found
  rcases bind_eq_ok_iff.mp found with ⟨target, located, -⟩
  rcases Tree.exists_holds_of_locate_join (isName_fileName name format) located with ⟨place, holds⟩
  rw [← opened]
  apply openStory_of_unmoved isFile first
  intro form earlier
  rw [storyPath_eq]
  refine unmoved_join holds (fun _ => directory_of_savingSession) (isName_fileName name form) ?_
  rcases savingSession_cases library tree slot session with ⟨-, grown⟩ | ⟨written, other, filed⟩
  · exact grown.file_iff _
  · refine filed.files _ fun same => apart ?_
    rcases List.append_inj' same rfl with ⟨rfl, sameName⟩
    rcases fileName_eq_iff.mp (Name.text.inj (List.singleton_inj.mp sameName)) with ⟨sameSlug, rfl⟩
    -- Only a document that is opened itself can be hit: then there is no script before it.
    refine ⟨⟨_, written⟩, sameSlug, ⟨place, holds, filed.holds⟩, Bool.eq_false_iff.mpr ?_⟩
    intro isScript
    have isDocument : format = .document := by
      cases format with
      | script => exact absurd earlier (by decide)
      | document => rfl
    rw [isDocument] at first
    exact absurd (first .script isScript) (by decide)

/-- Where a session has been put in the place of a story, the story is lost: the name
leads to a document that holds none. -/
theorem openStory_of_displaces (wellFormed : session.game.WellFormed) {name : String}
    (displaces : Displaces library tree (library.savingSession tree slot session) slot name) :
    library.openStory (library.savingSession tree slot session).2 name =
      .error (.document (library.storyPath name .document)
        (.problem (.unknownField "game" Document.storyShape.fields))
        (library.marker .story session.toJson)) := by
  rcases displaces with ⟨⟨path, written⟩, sameSlug, ⟨place, holds, holdsSaves⟩, noScript⟩
  rcases savingSession_cases library tree slot session with ⟨⟨error, failed⟩, -⟩ | ⟨-, other, filed⟩
  · exact absurd (failed.symm.trans written) error_ne_ok
  rcases filed.holds.unique holdsSaves with rfl
  have sameName : fileName name .document = fileName slot .document :=
    fileName_eq_iff.mpr ⟨sameSlug, rfl⟩
  have script : Unmoved tree (library.savingSession tree slot session).2
      (library.storyPath name .script) := by
    rw [storyPath_eq]
    refine unmoved_join holds (fun _ => directory_of_savingSession) (isName_fileName name .script)
      (filed.files _ fun same => ?_)
    have sameFile := Tree.concat_text_inj.mp same
    exact absurd (fileName_eq_iff.mp sameFile).2 (by decide)
  have found : ∃ changed, (library.savingSession tree slot session).2.find
      (library.storyPath name .document) = .ok (.file (.text session.toJson) changed) := by
    rcases filed.here with ⟨changed, here⟩
    refine ⟨changed, ?_⟩
    rw [storyPath_eq, sameName,
      (holds.of_directories fun _ => directory_of_savingSession).find_join
        (isName_fileName slot .document)]
    exact ⟨filed.short, here⟩
  rcases found with ⟨changed, found⟩
  have isDocument : (library.savingSession tree slot session).2.isFile
      (library.storyPath name .document) = true := isFile_iff.mpr ⟨_, changed, found⟩
  rw [openStory_of_first isDocument]
  · have read : (library.savingSession tree slot session).2.read
        (library.storyPath name .document) = .ok session.toJson := by
      rw [Tree.read, found]
      rfl
    simp only [readStory, read, accessing, ok_bind, ofJson_toJson_session wellFormed]
    rfl
  · intro form isFile
    cases form with
    | script =>
      rw [script.isFile_iff, noScript] at isFile
      cases isFile
    | document => exact Nat.le_refl _

end

/-! ## Directories that are two -/

/-- What a name in a directory leads to is below the directory. -/
theorem exists_above_of_holds {tree : Tree} {directory name : String} (isName : IsName name)
    {place : Place} (holds : tree.Holds (Files.join directory name) place) :
    ∃ above, tree.Holds directory above ∧ place = above ++ [.text name] := by
  rcases holds with ⟨empty, -⟩ | leads
  · have last := Files.lastName?_join isName directory
    rw [empty] at last
    cases last
  · rcases Tree.exists_holds_of_locate_join isName leads.located with ⟨above, holds⟩
    refine ⟨above, holds, ?_⟩
    have located := leads.located
    rw [holds.locate_join isName] at located
    split at located
    · cases located
    · cases located
      rfl

/-- Directories with different names in one root are never one place. -/
theorem not_displaces_of_names {tree : Tree} {root first second slot name : String}
    {marker : Marker} {session : Session} (isFirst : IsName first) (isSecond : IsName second)
    (different : first ≠ second) :
    ¬ Displaces (.within root first second marker) tree
      ((Library.within root first second marker).savingSession tree slot session) slot name := by
  rintro ⟨-, -, ⟨place, holds, holdsSaves⟩, -⟩
  rcases exists_above_of_holds isFirst holds with ⟨above, holdsRoot, rfl⟩
  rcases exists_above_of_holds isSecond holdsSaves with ⟨other, holdsRoot', same⟩
  have sameRoot : above = other :=
    (holdsRoot.of_directories fun _ => directory_of_savingSession).unique holdsRoot'
  rw [sameRoot] at same
  exact different (Tree.concat_text_inj.mp same)

/-- A save leaves every story that could be opened as it was, unless it puts the
session in the place of the story, and then the story can no longer be opened.  This
does not happen when the settings give two different names to the directories. -/
theorem openStory_of_savingSession {library : Library} {tree : Tree} {slot name : String}
    {session : Session} {story : Story} (wellFormed : session.game.WellFormed)
    (opened : library.openStory tree name = .ok story) :
    let saved := library.savingSession tree slot session
    (¬ Displaces library tree saved slot name → library.openStory saved.2 name = .ok story) ∧
      (Displaces library tree saved slot name →
        library.openStory saved.2 name =
          .error (.document (library.storyPath name .document)
            (.problem (.unknownField "game" Document.storyShape.fields))
            (library.marker .story session.toJson))) ∧
      ∀ root (folders : Folders) marker,
        library = .within root folders.stories folders.saves marker →
          IsName folders.stories → IsName folders.saves → folders.stories ≠ folders.saves →
            library.openStory saved.2 name = .ok story := by
  intro saved
  refine ⟨openStory_of_not_displaces opened, openStory_of_displaces wellFormed, ?_⟩
  rintro root folders marker rfl isStories isSaves different
  exact openStory_of_not_displaces opened (not_displaces_of_names isStories isSaves different)

theorem wellFormed_walk (keys : List LinkKey) : (walk keys).game.WellFormed := by
  rcases playedFrom_played (Settings.playable_load Tree.empty "paths.toml") player_unset
    wellFormed_cove keys with ⟨game, played⟩
  exact Session.wellFormed_of_playedFrom game played

/-- With the directories of the usual settings, a slot may be named as the story is. -/
theorem openStory_of_savingSession_coast :
    let tree := coastFiles (StoryFormat.document.write cove) (walk []).toJson
    (walk []).game.WellFormed ∧ (coast "saves").openStory tree "cove" = .ok cove ∧
      (coast "saves").openStory ((coast "saves").savingSession tree "cove" (walk [])).2 "cove" =
        .ok cove := by
  intro tree
  have opened : (coast "saves").openStory tree "cove" = .ok cove := openStory_coast "saves" _
  have isStories : IsName "stories" := ⟨by decide, by decide, by decide, by decide⟩
  have isSaves : IsName "saves" := ⟨by decide, by decide, by decide, by decide⟩
  refine ⟨wellFormed_walk [], opened, ?_⟩
  exact (openStory_of_savingSession (wellFormed_walk []) opened).2.2 "data" {} .silent rfl isStories
    isSaves (by decide)

/-! ## One directory for both -/

/-- A settings file that puts saved sessions beside the stories. -/
def oneFolder : Tree where
  entries := [(["paths.toml"], .file (.text "[library]\nsaves_dir = \"stories\"\n") ⟨0, 0⟩)]
  turn := 0

theorem folders_oneFolder :
    (Settings.load oneFolder "paths.toml").folders = ⟨"stories", "stories"⟩ := by
  decide +kernel

/-- Saving in the slot with the story's slug writes over the story's document. -/
theorem displaces_coast (story old : String) (session : Session) :
    Displaces (coast "stories") (coastFiles story old)
      ((coast "stories").savingSession (coastFiles story old) "cove" session) "cove" "cove" := by
  have holds : (coastFiles story old).Holds "data/stories" ["data", "stories"] := .inr ⟨rfl, rfl⟩
  refine ⟨?_, rfl, ⟨_, holds, holds.of_directories fun _ => directory_of_savingSession⟩, rfl⟩
  generalize isText : session.toJson = text
  have path : (coast "stories").sessionPath "cove" = "data/stories/cove.json" := by decide
  have above : Files.parent? "data/stories/cove.json" = some "data/stories" := by decide
  have paths : Files.ancestors "data/stories" = ["data/stories", "data", ""] := by decide
  have made : (coastFiles story old).makeDirectories ["data/stories", "data", ""] =
      .ok (coastFiles story old) := rfl
  have written : ∃ after, (coastFiles story old).write "data/stories/cove.json" (.text text) =
      .ok after := ⟨_, rfl⟩
  rcases written with ⟨after, written⟩
  have saved := saveSession_of_write path above (paths ▸ made) isText written
  rw [saveSession, Tree.settled_eq_ok_iff] at saved
  exact ⟨_, congrArg Prod.fst saved⟩

/-- A story may be lost by saving a session, with a library that is made from a
settings file. -/
theorem exists_lost_story :
    ¬ ∀ (config tree : Tree) (file root slot name : String) (marker : Marker) (session : Session)
      (story : Story), session.game.WellFormed →
      let folders := (Settings.load config file).folders
      let library : Library := .within root folders.stories folders.saves marker
      library.openStory tree name = .ok story →
        library.openStory (library.savingSession tree slot session).2 name = .ok story := by
  intro harmless
  have kept := harmless oneFolder
    (coastFiles (StoryFormat.document.write cove) (walk []).toJson) "paths.toml" "data" "cove"
    "cove" .silent (walk []) cove (wellFormed_walk [])
  rw [folders_oneFolder] at kept
  have lost := openStory_of_displaces (wellFormed_walk [])
    (displaces_coast (StoryFormat.document.write cove) (walk []).toJson (walk []))
  exact error_ne_ok (lost.symm.trans (kept (openStory_coast "stories" _)))

end Library
end Gamebook
