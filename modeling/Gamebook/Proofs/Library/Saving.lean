import Gamebook.Proofs.Library.Filing

namespace Gamebook

/-!
# Saving a story, all of it or nothing

Before a story is saved, the files that its title could have are looked at.  The save
is refused when one of them holds a readable story with another title, and then
nothing is touched.  Otherwise the file is written, and only when that is done the
file of the other form is removed, which does not fail.

The files are looked at before the directories are made.  So what is said of them
holds if their path can be followed before the save, and a path that does not go up
is as good.  A path that goes up out of a directory that is missing leads to the files
only after the save has made the directory, and then they have not been looked at.
-/

namespace Library

open Files (Tree Place)

section

-- Files are compared by `fileName_eq_iff`, and never by running the slugs.
attribute [local irreducible] storyPath fileName

variable {library : Library} {tree : Tree} {story : Story} {format : StoryFormat}

/-! ## Looking at the files of a title -/

/-- A title that is not refused is that of every readable story in its files. -/
theorem title_of_checkTitle {title : String} {formats : List StoryFormat}
    (checked : library.checkTitle tree title formats = .ok ()) {form : StoryFormat}
    (member : form ∈ formats) {existing : Story}
    (found : library.existing? tree title form = some existing) : existing.title = title := by
  induction formats with
  | nil => cases member
  | cons first formats ih =>
    rw [checkTitle_cons] at checked
    rcases List.mem_cons.mp member with rfl | later
    · simp only [found] at checked
      split at checked
      · next same => exact same
      · cases checked
    · split at checked
      · exact ih checked later
      · split at checked
        · exact ih checked later
        · cases checked

/-! ## The steps of a save -/

/-- A save that succeeds has passed the check, has written its file and has removed the
others. -/
theorem exists_written_of_savingStory {path : String} {left : Tree}
    (saved : library.savingStory tree story format = (.ok path, left)) :
    path = library.storyPath story.title format ∧
      library.checkTitle tree story.title StoryFormat.all = .ok () ∧
        ∃ written, writeFile tree (library.storyPath story.title format) (format.write story) =
            .ok written ∧
          removing written ((library.stale tree story.title format).map
            (library.storyPath story.title)) = (.ok (), left) := by
  rcases Tree.andThen_eq_ok_iff.mp saved with ⟨_, between, check, rest⟩
  rcases Prod.mk.inj check with ⟨checked, rfl⟩
  rcases Tree.andThen_eq_ok_iff.mp rest with ⟨_, written, writes, rest⟩
  rcases Tree.andThen_eq_ok_iff.mp rest with ⟨_, after, removed, same⟩
  cases same
  exact ⟨rfl, checked, written, Tree.leftBy_eq_ok_iff.mpr writes, removed⟩

/-- A save that fails is refused, or its file could not be written, or another one could
not be removed. -/
theorem cases_of_savingStory_error {error : LibraryError} {left : Tree}
    (failed : library.savingStory tree story format = (.error error, left)) :
    tree = left ∨
      writing tree (library.storyPath story.title format) (format.write story) =
        (.error error, left) ∨
      ∃ written, writeFile tree (library.storyPath story.title format) (format.write story) =
          .ok written ∧
        removing written ((library.stale tree story.title format).map
          (library.storyPath story.title)) = (.error error, left) := by
  rcases Tree.andThen_eq_error_iff.mp failed with refused | ⟨_, between, check, rest⟩
  · exact .inl (Prod.mk.inj refused).2
  · rcases Prod.mk.inj check with ⟨-, rfl⟩
    rcases Tree.andThen_eq_error_iff.mp rest with write | ⟨_, written, writes, rest⟩
    · exact .inr (.inl write)
    · rcases Tree.andThen_eq_error_iff.mp rest with removal | ⟨_, after, -, same⟩
      · exact .inr (.inr ⟨written, Tree.leftBy_eq_ok_iff.mpr writes, removal⟩)
      · cases same

end

/-! ## What is left -/

/-- Says that a story has been saved in a directory: its file has its text, and no other
files have changed but those of its title. -/
structure Saved (library : Library) (tree : Tree) (story : Story) (format : StoryFormat)
    (left : Tree) (place : Place) : Prop where
  holds : left.Holds library.stories place
  text : left.read (library.storyPath story.title format) = .ok (format.write story)
  elsewhere : ∀ other, (∀ form, other ≠ place ++ [.text (fileName story.title form)]) →
    ∀ content changed, left.node? other = some (.file content changed) ↔
      tree.node? other = some (.file content changed)
  /-- Where the path led nowhere before, the file of the other form is not seen. -/
  unseen : (∀ before, ¬ tree.Holds library.stories before) → ∀ form, form ≠ format →
    ∀ content changed,
      left.node? (place ++ [.text (fileName story.title form)]) = some (.file content changed) ↔
        tree.node? (place ++ [.text (fileName story.title form)]) = some (.file content changed)

/-- Says that a story that has been saved is the only one in the files of its title, that
none with another title was there, and that it is opened by its title. -/
structure Alone (library : Library) (tree : Tree) (story : Story) (format : StoryFormat)
    (left : Tree) (place : Place) : Prop where
  gone : ∀ form, form ≠ format → left.isFile (library.storyPath story.title form) = false
  spared : ∀ form text changed existing,
    tree.node? (place ++ [.text (fileName story.title form)]) = some (.file (.text text) changed) →
      form.Reads text existing → existing.title = story.title
  opened : ∃ opened, library.openStory left story.title = .ok opened ∧
    opened.identical story = true ∧ opened = story

/-- The places of the files that a save removes. -/
abbrev stalePlaces (library : Library) (tree : Tree) (story : Story) (format : StoryFormat)
    (place : Place) : List Place :=
  (library.stale tree story.title format).map fun form =>
    place ++ [.text (fileName story.title form)]

section

attribute [local irreducible] storyPath fileName

variable {library : Library} {tree written left : Tree} {story : Story} {format : StoryFormat}
  {place : Place}

theorem fileName_ne_of_ne {title : String} {form : StoryFormat} (different : form ≠ format) :
    fileName title form ≠ fileName title format := fun same =>
  different (fileName_eq_iff.mp same).2

/-- The files to be removed are still there when the new one has been written. -/
theorem Filed.isFile_of_stale {text : String}
    (filed : Filed tree written library.stories (fileName story.title format) text place)
    {form : StoryFormat} (isStale : form ∈ library.stale tree story.title format) :
    ∃ content changed,
      written.node? (place ++ [.text (fileName story.title form)]) =
        some (.file content changed) := by
  rcases mem_stale_iff.mp isStale with ⟨isOther, isFile⟩
  rcases isFile_iff.mp isFile with ⟨content, changed, found⟩
  rw [storyPath_eq] at found
  have isName := isName_fileName story.title form
  rcases bind_eq_ok_iff.mp found with ⟨target, located, -⟩
  rcases Tree.exists_holds_of_locate_join isName located with ⟨before, holds⟩
  have foundAfter := (filed.find_other holds isName (fileName_ne_of_ne isOther) content changed).mpr
    found
  exact ⟨content, changed, ((filed.holds.find_join isName).mp foundAfter).2⟩

/-- What is removed can be removed. -/
theorem Filed.removing_stale {text : String}
    (filed : Filed tree written library.stories (fileName story.title format) text place)
    (wellFormed : story.WellFormed) :
    removing written ((library.stale tree story.title format).map
        (library.storyPath story.title)) =
      (.ok (), written.without (library.stalePlaces tree story format place)) :=
  Library.removing_stale wellFormed filed.holds fun _ => filed.isFile_of_stale

/-- The file that was written is not removed. -/
theorem not_mem_stalePlaces {form : StoryFormat}
    (kept : form ∉ library.stale tree story.title format) :
    place ++ [.text (fileName story.title form)] ∉ library.stalePlaces tree story format place := by
  intro gone
  rcases List.mem_map.mp gone with ⟨other, isStale, same⟩
  have sameName := Tree.concat_text_inj.mp same
  exact kept ((fileName_eq_iff.mp sameName).2 ▸ isStale)

theorem Filed.saved
    (filed : Filed tree written library.stories (fileName story.title format)
      (format.write story) place) :
    library.Saved tree story format
      (written.without (library.stalePlaces tree story format place)) place := by
  have files : ∀ gone ∈ library.stalePlaces tree story format place,
      ∃ content changed, written.node? gone = some (.file content changed) := by
    intro gone listed
    rcases List.mem_map.mp listed with ⟨form, isStale, rfl⟩
    exact filed.isFile_of_stale isStale
  have holds := filed.holds.of_directories fun _ => Tree.directory_without files
  have notStale : format ∉ library.stale tree story.title format := fun isStale =>
    (mem_stale_iff.mp isStale).1 rfl
  refine ⟨holds, ?_, fun other apart content changed => ?_,
    fun nowhere form isOther content changed => ?_⟩
  · rcases filed.here with ⟨changed, here⟩
    rw [← Tree.node?_without_of_not_mem (not_mem_stalePlaces notStale)] at here
    rw [Tree.read, storyPath_eq, (holds.find_join (isName_fileName _ _)).mpr ⟨filed.short, here⟩]
    rfl
  · have kept : other ∉ library.stalePlaces tree story format place := by
      intro gone
      rcases List.mem_map.mp gone with ⟨form, -, same⟩
      exact apart form same.symm
    rw [Tree.node?_without_of_not_mem kept, filed.files other (apart format)]
  · have kept : form ∉ library.stale tree story.title format := by
      intro isStale
      rcases isFile_iff.mp (mem_stale_iff.mp isStale).2 with ⟨_, _, found⟩
      rw [storyPath_eq] at found
      exact Tree.find_join_of_not_holds nowhere (isName_fileName _ _) found
    rw [Tree.node?_without_of_not_mem (not_mem_stalePlaces kept), filed.files]
    intro same
    exact fileName_ne_of_ne isOther (Tree.concat_text_inj.mp same)

/-- A file that has a place in the directory is found by its path before the save, when
the path is steady. -/
theorem Filed.find_before {name text : String}
    (filed : Filed tree written library.stories name text place) (rooted : tree.Rooted)
    (steady : Steady tree library.stories) (wellFormed : story.WellFormed) {form : StoryFormat}
    {node : Files.Node}
    (there : tree.node? (place ++ [.text (fileName story.title form)]) = some node) :
    tree.find (library.storyPath story.title form) = .ok node := by
  have was := rooted.inside place _ (by rw [there]; rfl)
  have holds := filed.holds_before rooted steady was
  rw [storyPath_eq, holds.find_join (isName_fileName _ _)]
  exact ⟨byteLength_fileName_le wellFormed form, there⟩

theorem Filed.alone
    (filed : Filed tree written library.stories (fileName story.title format)
      (format.write story) place)
    (rooted : tree.Rooted) (steady : Steady tree library.stories) (wellFormed : story.WellFormed)
    (checked : library.checkTitle tree story.title StoryFormat.all = .ok ()) :
    library.Alone tree story format
      (written.without (library.stalePlaces tree story format place)) place := by
  have saved := filed.saved
  have gone : ∀ form, form ≠ format →
      (written.without (library.stalePlaces tree story format place)).isFile
        (library.storyPath story.title form) = false := by
    intro form isOther
    refine Bool.eq_false_iff.mpr fun isFile => ?_
    rcases isFile_iff.mp isFile with ⟨content, changed, found⟩
    rw [storyPath_eq, saved.holds.find_join (isName_fileName _ _)] at found
    by_cases isStale : form ∈ library.stale tree story.title format
    · have removed : place ++ [.text (fileName story.title form)] ∈
          library.stalePlaces tree story format place :=
        List.mem_map_of_mem (f := fun form => place ++ [.text (fileName story.title form)]) isStale
      rw [Tree.node?_without_of_mem removed (Tree.isFixed_concat (isName_fileName _ _) _)] at found
      cases found.2
    · have different : fileName story.title form ≠ fileName story.title format :=
        fileName_ne_of_ne isOther
      rw [Tree.node?_without_of_not_mem (not_mem_stalePlaces isStale), filed.files] at found
      · have isFileBefore := filed.find_before rooted steady wellFormed found.2
        exact isStale (mem_stale_iff.mpr ⟨isOther, isFile_iff.mpr ⟨_, _, isFileBefore⟩⟩)
      · exact fun same => different (Tree.concat_text_inj.mp same)
  refine ⟨gone, ?_, story, ?_, Story.identical_self wellFormed, rfl⟩
  · intro form text changed existing there reads
    have found := filed.find_before rooted steady wellFormed there
    have isFile := isFile_iff.mpr ⟨_, _, found⟩
    have read : tree.read (library.storyPath story.title form) = .ok text := by
      rw [Tree.read, found]
      rfl
    refine title_of_checkTitle checked (StoryFormat.mem_all form) ?_
    rw [existing?, if_pos isFile, readStory_eq_ok_iff.mpr ⟨_, read, reads⟩]
    rfl
  · rw [openStory_of_isFile, readStory_of_read wellFormed saved.text]
    intro form
    by_cases same : form = format
    · rw [same]
      exact iff_of_true (isFile_of_read saved.text) rfl
    · rw [gone form same]
      exact iff_of_false Bool.false_ne_true same

/-! ## All or nothing -/

/-- A save that fails has changed no file.  One that succeeds has written the story's file
and changed no file but those of its title, and if the path of the stories is steady, the
story stands alone under its title and has taken the place of no other. -/
theorem savingStory_allOrNothing {result : Except LibraryError String} (rooted : tree.Rooted)
    (wellFormed : story.WellFormed)
    (saving : library.savingStory tree story format = (result, left)) :
    match result with
    | .error _ => ∀ place content changed, left.node? place = some (.file content changed) ↔
        tree.node? place = some (.file content changed)
    | .ok path => path = library.storyPath story.title format ∧
        ∃ place, library.Saved tree story format left place ∧
          (Steady tree library.stories → library.Alone tree story format left place) := by
  cases result with
  | error error =>
    intro place content changed
    rcases cases_of_savingStory_error saving with rfl | failed | ⟨written, write, failed⟩
    · rfl
    · exact (grown_of_writing_error failed).file_iff place content changed
    · rw [storyPath_eq] at write
      rcases exists_filed_of_writeFile (isName_fileName _ _) write with ⟨directory, filed⟩
      rw [filed.removing_stale wellFormed] at failed
      cases failed
  | ok path =>
    rcases exists_written_of_savingStory saving with ⟨rfl, checked, written, write, removed⟩
    rw [storyPath_eq] at write
    rcases exists_filed_of_writeFile (isName_fileName _ _) write with ⟨place, filed⟩
    rw [filed.removing_stale wellFormed] at removed
    cases removed
    exact ⟨rfl, place, filed.saved, fun steady => filed.alone rooted steady wellFormed checked⟩

end

/-! ## A story of the tide -/

def tide : Story := ⟨"Tide", ⟨"Shore", "Wet sand.", .none, false, []⟩, []⟩

/-- A library with this path to its stories. -/
abbrev strand (stories : String) : Library := .within "data" stories "saves" .silent

/-- The files of the library, with one thing among the stories. -/
def strandFiles (name : Files.Name) (node : Files.Node) : Tree where
  entries :=
    [(["data"], .directory), (["data", "stories"], .directory), (["data", "stories", name], node)]
  turn := 0

theorem rooted_strandFiles {name : Files.Name} (proper : name ≠ ".." ∧ name ≠ "/")
    (node : Files.Node) : (strandFiles name node).Rooted := by
  apply Tree.rooted_of_entries
  simp only [strandFiles, List.forall_mem_cons]
  exact ⟨⟨[], "data", rfl, rfl, by decide⟩, ⟨["data"], "stories", rfl, rfl, by decide⟩,
    ⟨["data", "stories"], name, rfl, rfl, proper⟩, List.forall_mem_nil _⟩

/-- A document that is no text at all. -/
def wreck : Tree := strandFiles "tide.json" (.file (.bytes [255]) ⟨0, 0⟩)

/-- The files when the story is the only one, as a script. -/
def ashore (script : String) : Tree where
  entries :=
    [(["data"], .directory), (["data", "stories"], .directory),
      (["data", "stories", "tide.paths"], .file (.text script) ⟨0, 1⟩)]
  turn := 1

theorem savingStory_wreck :
    (strand "stories").savingStory wreck tide .script =
      (.ok "data/stories/tide.paths", ashore (StoryFormat.script.write tide)) := by
  unfold savingStory
  generalize StoryFormat.script.write tide = script
  rfl

/-- A story takes the place of the wreck in another form. -/
theorem savingStory_allOrNothing_wreck :
    wreck.Rooted ∧ tide.WellFormed ∧ Steady wreck (strand "stories").stories ∧
      (strand "stories").savingStory wreck tide .script =
        (.ok "data/stories/tide.paths", ashore (StoryFormat.script.write tide)) ∧
      "data/stories/tide.paths" = (strand "stories").storyPath tide.title .script ∧
      ∃ place,
        (strand "stories").Saved wreck tide .script (ashore (StoryFormat.script.write tide)) place ∧
          (Steady wreck (strand "stories").stories →
            (strand "stories").Alone wreck tide .script (ashore (StoryFormat.script.write tide))
              place) :=
  ⟨rooted_strandFiles (by decide) _, by decide, .inr (by decide), savingStory_wreck,
    savingStory_allOrNothing (rooted_strandFiles (by decide) _) (by decide) savingStory_wreck⟩

/-! ## A path that goes up -/

/-- The files with a directory that was made on the way to the stories, and with the
story as a document beside an older copy. -/
def flooded (older : Files.Node) (document : String) : Tree where
  entries :=
    [(["data"], .directory), (["data", "new"], .directory), (["data", "stories"], .directory),
      (["data", "stories", "tide.json"], .file (.text document) ⟨0, 1⟩),
      (["data", "stories", "tide.paths"], older)]
  turn := 1

/-- An older copy in the other form is not seen, because the path to it goes through what
is missing. -/
theorem savingStory_detour (older : Files.Node) :
    (strand "new/../stories").savingStory (strandFiles "tide.paths" older) tide .document =
      (.ok "data/new/../stories/tide.json",
        flooded older (StoryFormat.document.write tide)) := by
  have path : (strand "new/../stories").storyPath tide.title .document =
      "data/new/../stories/tide.json" := by decide
  have checked : (strand "new/../stories").checkTitle (strandFiles "tide.paths" older) tide.title
      StoryFormat.all = .ok () := rfl
  have stale : (strand "new/../stories").stale (strandFiles "tide.paths" older) tide.title
      .document = [] := rfl
  have written : writeFile (strandFiles "tide.paths" older) "data/new/../stories/tide.json"
      (StoryFormat.document.write tide) =
        .ok (flooded older (StoryFormat.document.write tide)) := by
    generalize StoryFormat.document.write tide = document
    have above : Files.parent? "data/new/../stories/tide.json" = some "data/new/../stories" := by
      decide
    have paths : Files.ancestors "data/new/../stories" =
        ["data/new/../stories", "data/new/..", "data/new", "data", ""] := by decide
    refine (writeFile_eq_ok_iff above).mpr
      ⟨(strandFiles "tide.paths" older).put ["data", "new"] .directory, ?_, rfl⟩
    rw [paths]
    rfl
  rw [← path] at written
  rw [← path]
  exact savingStory_of_written checked written (stale ▸ rfl)

/-- A story that has been saved need not be the only one in the files of its title: when
the path of the stories goes up, an older copy may be left behind. -/
theorem exists_stale_copy :
    ¬ ∀ (library : Library) (tree left : Tree) (story : Story) (format : StoryFormat)
      (path : String), tree.Rooted → story.WellFormed →
        library.savingStory tree story format = (.ok path, left) →
          ∃ place, library.Alone tree story format left place := by
  intro always
  let older : Files.Node := .file (.text "Tide\n\n::Shore\nDry sand.\n") ⟨0, 0⟩
  rcases always (strand "new/../stories") (strandFiles "tide.paths" older) _ tide .document _
    (rooted_strandFiles (by decide) _) (by decide) (savingStory_detour older) with ⟨place, alone⟩
  have gone := alone.gone .script (by decide)
  have isThere : (flooded older (StoryFormat.document.write tide)).isFile
      ((strand "new/../stories").storyPath tide.title .script) = true := by
    generalize StoryFormat.document.write tide = document
    rfl
  rw [isThere] at gone
  cases gone

end Library

end Gamebook
