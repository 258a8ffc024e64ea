import Gamebook.Proofs.Library.Listed
import Gamebook.Proofs.Library.Shared
import Gamebook.Proofs.Slug.Stem

namespace Gamebook

/-!
# Names that lead back to a file

The library names its files by slugs, and a slug is its own slug.  So the stem of a file
that the library has written is a name for the same file, and no other step of the path
depends on the name: the path of a slug names something directly in its directory, as
the last step of the path, wherever the directory may be.

A saved session is found again by this name alone.  A story is looked for in both forms,
so its name opens the file that was written unless there is one of a form that is looked
for earlier.  After a save there is none, provided that the path of the stories could be
followed before.
-/

open Files (IsName Tree Place)

/-! ## Paths of names in a directory -/

/-- Says that a path names something directly in a directory: it is the directory's path
and one name more, and in every tree it leads into the directory and nowhere else. -/
structure Files.NamesInside (directory path name : String) : Prop where
  isName : IsName name
  above : Files.parent? path = some (Files.trimmed directory)
  last : Files.lastName? path = some name
  inside : ∀ (tree : Tree) (place : Place), tree.Holds directory place →
    tree.locate path =
      if Tree.longestName < Text.byteLength name.toList then .error .nameTooLong
      else .ok ⟨place ++ [.text name], false⟩
  nowhereElse : ∀ (tree : Tree) target, tree.locate path = .ok target →
    ∃ place, tree.Holds directory place ∧ target = ⟨place ++ [.text name], false⟩

theorem Files.namesInside_join {name : String} (isName : IsName name) (directory : String) :
    NamesInside directory (join directory name) name := by
  refine ⟨isName, parent?_join isName directory, lastName?_join isName directory, ?_, ?_⟩
  · intro tree place holds
    exact holds.locate_join isName
  · intro tree target located
    rcases Tree.exists_holds_of_locate_join isName located with ⟨place, holds⟩
    refine ⟨place, holds, ?_⟩
    rw [holds.locate_join isName] at located
    split at located
    · cases located
    · exact (Except.ok.inj located).symm

namespace Library

section

-- Files are compared by `fileName_eq_iff`, and never by running the slugs.
attribute [local irreducible] storyPath fileName

variable {library : Library} {tree left : Tree} {story : Story} {format : StoryFormat}

/-! ## Stems as names -/

theorem fileName_slug (title : String) (format : StoryFormat) :
    fileName (slug title) format = fileName title format :=
  fileName_eq_iff.mpr ⟨slug_slug title, rfl⟩

/-- The stem of a story's file is a name for the files of its title. -/
theorem storyPath_of_stem? {title name : String}
    (stem : Files.stem? (library.storyPath title format) = some name) (form : StoryFormat) :
    library.storyPath name form = library.storyPath title form := by
  rw [stem?_storyPath, Option.some_inj] at stem
  rw [← stem, storyPath_eq, storyPath_eq, fileName_slug]

theorem stem?_sessionPath (library : Library) (slot : String) :
    Files.stem? (library.sessionPath slot) = some (slug slot) := by
  rw [sessionPath_eq, ← stem?_storyPath ⟨library.saves, library.saves, .silent⟩ slot .document,
    storyPath_eq]

/-- The stem of a saved session's file is a name for its slot. -/
theorem sessionPath_of_stem? {slot name : String}
    (stem : Files.stem? (library.sessionPath slot) = some name) :
    library.sessionPath name = library.sessionPath slot := by
  rw [stem?_sessionPath, Option.some_inj] at stem
  rw [← stem, sessionPath_eq, sessionPath_eq, fileName_slug]

/-! ## Files that are opened again -/

/-- Says that a name leads back to the file of a story that was saved. -/
structure StoryReopens (library : Library) (tree left : Tree) (story : Story)
    (format : StoryFormat) (path name : String) : Prop where
  stem : Files.stem? path = some name
  named : library.storyPath name format = path
  holds : library.readStory left path format = .ok story
  /-- Whatever happens to the files, the name opens this one as long as there is none of
  a form that is looked for earlier. -/
  later : ∀ after : Tree, after.isFile path = true →
    (∀ form, after.isFile (library.storyPath name form) = true → IsNoLater format form) →
      library.openStory after name = library.readStory after path format
  opened : Steady tree library.stories → library.openStory left name = .ok story

/-- Says that a name leads back to the file of a session that was saved. -/
structure SessionReopens (library : Library) (left : Tree) (session : Session)
    (path name : String) : Prop where
  stem : Files.stem? path = some name
  named : library.sessionPath name = path
  holds : left.read path = .ok session.toJson
  /-- Whatever happens to the files, the name loads this one as long as it is there. -/
  later : ∀ after : Tree, after.isFile path = true →
    library.loadSession after name = library.readSession after path
  loaded : ∀ game : Game, game.WellFormed → session.PlayedFrom game →
    library.loadSession left name = .ok session

/-- The file that was written is the first to be looked for under its stem, unless the
directory could not be followed before the save. -/
theorem storyReopens_of_savingStory {path : String} (rooted : tree.Rooted)
    (wellFormed : story.WellFormed)
    (saved : library.savingStory tree story format = (.ok path, left)) :
    library.StoryReopens tree left story format path (slug story.title) := by
  rcases exists_written_of_savingStory saved with ⟨rfl, checked, written, write, removed⟩
  rw [storyPath_eq] at write
  rcases exists_filed_of_writeFile (isName_fileName _ _) write with ⟨place, filed⟩
  rw [filed.removing_stale wellFormed] at removed
  cases removed
  have stem := stem?_storyPath library story.title format
  have paths := storyPath_of_stem? stem
  have text := filed.saved.text
  have later : ∀ after : Tree, after.isFile (library.storyPath story.title format) = true →
      (∀ form, after.isFile (library.storyPath (slug story.title) form) = true →
        IsNoLater format form) →
      library.openStory after (slug story.title) =
        library.readStory after (library.storyPath story.title format) format := by
    intro after isFile first
    rw [← paths format] at isFile ⊢
    exact openStory_of_first isFile first
  refine ⟨stem, paths format, readStory_of_read wellFormed text, later, ?_⟩
  intro steady
  have alone := filed.alone rooted steady wellFormed checked
  rw [later _ (isFile_of_read text), readStory_of_read wellFormed text]
  intro form isFile
  by_cases same : form = format
  · rw [same]
    exact Nat.le_refl _
  · rw [paths form, alone.gone form same] at isFile
    cases isFile

theorem sessionReopens_of_savingSession {slot path : String} {session : Session}
    (saved : library.savingSession tree slot session = (.ok path, left)) :
    library.SessionReopens left session path (slug slot) := by
  have written := saveSession_eq_ok_iff.mp (Tree.settled_eq_ok_iff.mpr saved)
  rcases written with ⟨rfl, write⟩
  rw [sessionPath_eq] at write
  rcases exists_filed_of_writeFile (isName_fileName _ _) write with ⟨place, filed⟩
  rcases filed.here with ⟨changed, here⟩
  have stem := stem?_sessionPath library slot
  have samePath := sessionPath_of_stem? stem
  have found : left.find (library.sessionPath slot) =
      .ok (.file (.text session.toJson) changed) := by
    rw [sessionPath_eq]
    exact (filed.holds.find_join (isName_fileName _ _)).mpr ⟨filed.short, here⟩
  refine ⟨stem, samePath, ?_, ?_, ?_⟩
  · rw [Tree.read, found]
    rfl
  · intro after isFile
    rw [loadSession, samePath, if_pos isFile]
  · intro game wellFormed played
    rw [← samePath] at found
    exact loadSession_of_find found (Session.ofJson_toJson wellFormed played)

end

/-! ## Safe names -/

/-- Every slug is a stem that is its own slug.  So the path of a story or of a saved
session names a file directly in its directory, and the stem of a file that was written
leads back to it. -/
theorem slug_leadsBack (library : Library) :
    (∀ name, Slug.IsStem (slug name).toList ∧ slug (slug name) = slug name) ∧
      (∀ title format, Files.NamesInside library.stories (library.storyPath title format)
        (fileName title format)) ∧
      (∀ slot, Files.NamesInside library.saves (library.sessionPath slot)
        (fileName slot .document)) ∧
      (∀ (tree left : Tree) (story : Story) (format : StoryFormat) (path : String),
        tree.Rooted → story.WellFormed →
          library.savingStory tree story format = (.ok path, left) →
            ∃ name, library.StoryReopens tree left story format path name) ∧
      ∀ (tree left : Tree) (slot : String) (session : Session) (path : String),
        library.savingSession tree slot session = (.ok path, left) →
          ∃ name, library.SessionReopens left session path name := by
  refine ⟨?_, ?_, ?_, ?_, ?_⟩
  · intro name
    exact ⟨isStem_slug name, slug_slug name⟩
  · intro title format
    rw [storyPath_eq]
    exact Files.namesInside_join (isName_fileName title format) library.stories
  · intro slot
    rw [sessionPath_eq]
    exact Files.namesInside_join (isName_fileName slot .document) library.saves
  · intro tree left story format path rooted wellFormed saved
    exact ⟨slug story.title, storyReopens_of_savingStory rooted wellFormed saved⟩
  · intro tree left slot session path saved
    exact ⟨slug slot, sessionReopens_of_savingSession saved⟩

/-- The story of the tide and the walk to the cove are opened again by the stems of their
files. -/
theorem slug_leadsBack_strand :
    let files := coastFiles (StoryFormat.document.write cove) (walk []).toJson
    (wreck.Rooted ∧ tide.WellFormed ∧
      (strand "stories").savingStory wreck tide .script =
        (.ok "data/stories/tide.paths", ashore (StoryFormat.script.write tide)) ∧
      (strand "stories").openStory (ashore (StoryFormat.script.write tide)) "tide" = .ok tide) ∧
    (coast "saves").savingSession files "fresh" (walk []) =
        (.ok "data/saves/fresh.json", landed files (walk []).toJson) ∧
      (coast "saves").loadSession (landed files (walk []).toJson) "fresh" = .ok (walk []) := by
  intro files
  have rooted : wreck.Rooted := rooted_strandFiles (by decide) _
  have wellFormed : tide.WellFormed := by decide
  have steady : Steady wreck (strand "stories").stories := .inr (by decide)
  rcases (slug_leadsBack (strand "stories")).2.2.2.1 wreck _ tide .script _ rooted wellFormed
    savingStory_wreck with ⟨name, story⟩
  have storyName : some "tide" = some name :=
    (by decide : some "tide" = Files.stem? "data/stories/tide.paths").trans story.stem
  cases storyName
  have saved := Tree.settled_eq_ok_iff.mp
    (saveSession_coast (StoryFormat.document.write cove) (walk []).toJson (walk []))
  rcases (slug_leadsBack (coast "saves")).2.2.2.2 files _ "fresh" (walk []) _ saved with
    ⟨slot, session⟩
  have slotName : some "fresh" = some slot :=
    (by decide : some "fresh" = Files.stem? "data/saves/fresh.json").trans session.stem
  cases slotName
  rcases playedFrom_played (Settings.playable_load Tree.empty "paths.toml") player_unset
    wellFormed_cove [] with ⟨game, played⟩
  exact ⟨⟨rooted, wellFormed, savingStory_wreck, story.opened steady⟩, saved,
    session.loaded _ game played⟩

/-- The stem of a file that was written may open another file: when the path of the
stories goes up, a script may be left behind, and it is looked for before the document
that was written. -/
theorem exists_stem_astray :
    ¬ ∀ (library : Library) (tree left : Tree) (story : Story) (format : StoryFormat)
      (path name : String), tree.Rooted → story.WellFormed →
        library.savingStory tree story format = (.ok path, left) →
          Files.stem? path = some name →
            library.openStory left name = library.readStory left path format := by
  intro reopens
  generalize isScript : StoryFormat.script.write dryTide = script
  generalize isDocument : StoryFormat.document.write tide = document
  let older : Files.Node := .file (.text script) ⟨0, 0⟩
  have saved := savingStory_detour older
  rw [isDocument] at saved
  have same := reopens (strand "new/../stories") (strandFiles "tide.paths" older) _ tide .document
    _ "tide" (rooted_strandFiles (by decide) _) (by decide) saved (by decide)
  have opens : (strand "new/../stories").openStory (flooded older document) "tide" =
      (strand "new/../stories").readStory (flooded older document)
        ((strand "new/../stories").storyPath "tide" .script) .script := by
    apply openStory_of_first
    · rfl
    · intro form _
      exact isNoLater_script form
  have old : (strand "new/../stories").readStory (flooded older document)
      ((strand "new/../stories").storyPath "tide" .script) .script = .ok dryTide := by
    apply readStory_of_read (by decide)
    rw [isScript]
    rfl
  have new : (strand "new/../stories").readStory (flooded older document)
      "data/new/../stories/tide.json" .document = .ok tide := by
    apply readStory_of_read (by decide)
    rw [isDocument]
    rfl
  rw [opens, old, new] at same
  exact absurd (Except.ok.inj same) (by decide)

end Library
end Gamebook
