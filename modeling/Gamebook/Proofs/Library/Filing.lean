import Gamebook.Proofs.Files.Rooted
import Gamebook.Proofs.Library.Reading
import Gamebook.Proofs.Library.StoryFile

namespace Gamebook

/-!
# Files of the library that come and go

To save something is to write one file, after the directories on the way to it have
been made.  A story that is saved may then take files away that are in the same
directory.  What happens to the files is told here by places, and the path of the
directory may be any text: it may lead to the directory only after the save.
-/

namespace Library

open Files (Tree Place Node IsName)

-- Files are compared by `fileName_eq_iff`, and never by running the slugs.
attribute [local irreducible] storyPath fileName

/-! ## Writing a file -/

theorem isFile_iff {tree : Tree} {path : String} :
    tree.isFile path = true ↔ ∃ content changed, tree.find path = .ok (.file content changed) := by
  rw [Tree.isFile]
  constructor
  · intro isFile
    split at isFile
    · next content changed found => exact ⟨content, changed, found⟩
    · cases isFile
  · rintro ⟨content, changed, found⟩
    rw [found]

theorem isFile_of_read {tree : Tree} {path text : String} (read : tree.read path = .ok text) :
    tree.isFile path = true := by
  rcases bind_eq_ok_iff.mp read with ⟨node, found, isText⟩
  cases node with
  | directory => cases isText
  | file content changed => exact isFile_iff.mpr ⟨content, changed, found⟩

/-- Says that a path leads to a file after a change just when it did before, and to
the same one. -/
def Unmoved (tree after : Tree) (path : String) : Prop :=
  ∀ content changed, after.find path = .ok (.file content changed) ↔
    tree.find path = .ok (.file content changed)

theorem Unmoved.isFile_iff {tree after : Tree} {path : String}
    (unmoved : Unmoved tree after path) : after.isFile path = true ↔ tree.isFile path = true := by
  rw [Library.isFile_iff, Library.isFile_iff]
  exact exists_congr fun content => exists_congr fun changed => unmoved content changed

theorem Unmoved.read {tree after : Tree} {path : String} (unmoved : Unmoved tree after path)
    (isFile : tree.isFile path = true) : after.read path = tree.read path := by
  rcases Library.isFile_iff.mp isFile with ⟨content, changed, found⟩
  rw [Tree.read, Tree.read, found, (unmoved content changed).mpr found]

theorem map_accessing_eq_ok_iff {α : Type} {path : String}
    {done : Except Files.FileError α × Tree} {value : α} {left : Tree} :
    done.map (accessing path) id = (.ok value, left) ↔ done = (.ok value, left) := by
  rcases done with ⟨result, tree⟩
  rw [Prod.map, Prod.mk.injEq, Prod.mk.injEq, accessing_eq_ok_iff]
  exact Iff.rfl

/-- To write a file is to make the directories on the way to it and then to write. -/
theorem writeFile_eq_ok_iff {tree after : Tree} {path above text : String}
    (isAbove : Files.parent? path = some above) :
    writeFile tree path text = .ok after ↔
      ∃ made, tree.makeDirectories (Files.ancestors above) = .ok made ∧
        made.write path (.text text) = .ok after := by
  rw [writeFile, Tree.leftBy_eq_ok_iff, writing, isAbove, Tree.andThen_eq_ok_iff]
  simp only [map_accessing_eq_ok_iff, Tree.stepOf_eq_ok_iff, accessing_eq_ok_iff,
    Tree.makeDirectories, Tree.leftBy_eq_ok_iff]
  constructor
  · rintro ⟨_, made, making, write⟩
    exact ⟨made, making, write⟩
  · rintro ⟨made, making, write⟩
    exact ⟨(), made, making, write⟩

/-- When a file cannot be written, directories may have been made but no file has
changed. -/
theorem grown_of_writing_error {tree left : Tree} {path text : String} {error : LibraryError}
    (failed : writing tree path text = (.error error, left)) : tree.Grown left := by
  rw [writing] at failed
  split at failed
  · rcases Tree.andThen_eq_error_iff.mp failed with none | ⟨_, between, same, write⟩
    · cases none
    · cases same
      exact (Tree.stepOf_eq_error_iff.mp write).2 ▸ .refl tree
  · next above _ =>
    have grown := Tree.grown_of_makingDirectories tree (Files.ancestors above)
    rcases Tree.andThen_eq_error_iff.mp failed with making | ⟨_, between, making, write⟩
    · have same : (tree.makingDirectories (Files.ancestors above)).2 = left :=
        congrArg Prod.snd making
      exact same ▸ grown
    · have same : (tree.makingDirectories (Files.ancestors above)).2 = between :=
        congrArg Prod.snd making
      rw [← (Tree.stepOf_eq_error_iff.mp write).2]
      exact same ▸ grown

/-- What a save does to the files: one place gets the text, and at other places
directories may be made where there was nothing. -/
structure Filed (tree after : Tree) (directory name text : String) (place : Place) : Prop where
  holds : after.Holds directory place
  short : Text.byteLength name.toList ≤ Tree.longestName
  here : ∃ changed, after.node? (place ++ [.text name]) = some (.file (.text text) changed)
  files : ∀ other, other ≠ place ++ [.text name] → ∀ content changed,
    after.node? other = some (.file content changed) ↔
      tree.node? other = some (.file content changed)
  directories : ∀ other, tree.node? other = some .directory → after.node? other = some .directory
  rooted : tree.Rooted → after.Rooted

theorem exists_filed_of_writeFile {tree after : Tree} {directory name text : String}
    (isName : IsName name)
    (written : writeFile tree (Files.join directory name) text = .ok after) :
    ∃ place, Filed tree after directory name text place := by
  rcases (writeFile_eq_ok_iff (Files.parent?_join isName _)).mp written with ⟨made, makes, write⟩
  have grown := Tree.grown_of_makeDirectories makes
  rcases Tree.exists_written_join isName write with ⟨place, holds, short, change⟩
  exact ⟨place,
    { holds := holds.of_directories fun _ => change.directory
      short := short
      here := change.here
      files := by
        intro other different content changed
        rw [change.elsewhere other different]
        exact grown.file_iff other content changed
      directories := fun _ isDirectory => change.directory (grown.directory isDirectory)
      rooted := by
        intro rooted
        have proper : Files.Name.text name ≠ ".." ∧ Files.Name.text name ≠ "/" := by
          refine ⟨fun same => isName.noStep (Files.Name.text.inj same), fun same => ?_⟩
          rw [Files.Name.text.inj same] at isName
          exact isName.noSlash List.mem_cons_self
        exact (rooted.of_makeDirectories makes).of_elsewhere holds.isDirectory proper
          change.noDirectory change.elsewhere }⟩

section

variable {tree after : Tree} {directory name text : String} {place : Place}

/-- In a directory that was there, a name other than the one that was written finds
the files that it found before. -/
theorem Filed.find_other (filed : Filed tree after directory name text place) {before : Place}
    (holds : tree.Holds directory before) {other : String} (isName : IsName other)
    (different : other ≠ name) (content : Files.Content) (changed : Files.Time) :
    after.find (Files.join directory other) = .ok (.file content changed) ↔
      tree.find (Files.join directory other) = .ok (.file content changed) := by
  have same := (holds.of_directories filed.directories).unique filed.holds
  have elsewhere : place ++ [.text other] ≠ place ++ [.text name] := fun same =>
    different (Tree.concat_text_inj.mp same)
  rw [filed.holds.find_join isName, filed.files _ elsewhere, holds.find_join isName, same]

/-- Says that a path can be followed, though what is at its end may be missing, or
that it does not go up. -/
def Steady (tree : Tree) (path : String) : Prop :=
  (∃ target, tree.locate path = .ok target) ∨ ".." ∉ Files.segments path

/-- A path that is steady led to the directory before the save, if the directory was
there. -/
theorem Filed.holds_before (filed : Filed tree after directory name text place)
    (rooted : tree.Rooted) (steady : Steady tree directory)
    (was : tree.node? place = some .directory) : tree.Holds directory place := by
  rcases steady with ⟨target, located⟩ | noStep
  · exact .of_locate filed.directories located filed.holds was
  · exact rooted.holds_of_directory noStep filed.holds was

/-- In a directory that was not there, no other name finds a file, provided that the
path to it is steady. -/
theorem Filed.not_find_other (filed : Filed tree after directory name text place)
    (rooted : tree.Rooted) (steady : Steady tree directory)
    (nowhere : ∀ before, ¬ tree.Holds directory before) {other : String} (isName : IsName other)
    (different : other ≠ name) (content : Files.Content) (changed : Files.Time) :
    after.find (Files.join directory other) ≠ .ok (.file content changed) := by
  have elsewhere : place ++ [.text other] ≠ place ++ [.text name] := fun same =>
    different (Tree.concat_text_inj.mp same)
  rw [ne_eq, filed.holds.find_join isName, filed.files _ elsewhere]
  rintro ⟨-, there⟩
  have was := rooted.inside place other (by rw [there]; rfl)
  exact nowhere place (filed.holds_before rooted steady was)

end

/-! ## Removing files -/

section

variable {tree : Tree} {directory : String} {place : Place}

/-- Files of one directory are removed together. -/
theorem removing_join (holds : tree.Holds directory place) {names : List String}
    (areNames : ∀ name ∈ names, IsName name) (distinct : names.Nodup)
    (there : ∀ name ∈ names, Text.byteLength name.toList ≤ Tree.longestName ∧
      ∃ content changed, tree.node? (place ++ [.text name]) = some (.file content changed)) :
    removing tree (names.map (Files.join directory)) =
      (.ok (), tree.without (names.map fun name => place ++ [.text name])) := by
  induction names generalizing tree with
  | nil =>
    have same : tree.without [] = tree := by
      rw [Tree.without, List.filter_eq_self.mpr fun _ _ => decide_eq_true List.not_mem_nil]
    rw [List.map_nil, List.map_nil, same, removing]
  | cons name names ih =>
    rcases List.forall_mem_cons.mp areNames with ⟨isName, others⟩
    rcases List.forall_mem_cons.mp there with ⟨⟨short, content, changed, isFile⟩, othersThere⟩
    rcases List.nodup_cons.mp distinct with ⟨apart, othersDistinct⟩
    have removed : tree.remove (Files.join directory name) =
        .ok (tree.without [place ++ [.text name]]) := by
      rw [Tree.remove, holds.locate_join isName, if_neg (Nat.not_lt.mpr short), ok_bind]
      simp only [isFile, Tree.without, List.mem_singleton, ne_eq]
    have elsewhere {other : Place} (different : other ≠ place ++ [.text name]) :
        (tree.without [place ++ [.text name]]).node? other = tree.node? other :=
      Tree.node?_without_of_not_mem (mt List.mem_singleton.mp different)
    have holds' : (tree.without [place ++ [.text name]]).Holds directory place := by
      refine holds.of_directories fun other isDirectory => ?_
      rw [elsewhere]
      · exact isDirectory
      · rintro rfl
        rw [isFile] at isDirectory
        cases isDirectory
    have there' : ∀ other ∈ names, Text.byteLength other.toList ≤ Tree.longestName ∧
        ∃ content changed, (tree.without [place ++ [.text name]]).node? (place ++ [.text other]) =
          some (.file content changed) := by
      intro other member
      rw [elsewhere]
      · exact othersThere other member
      · intro same
        cases Tree.concat_text_inj.mp same
        exact apart member
    have together :
        (tree.without [place ++ [.text name]]).without
            (names.map fun name => place ++ [.text name]) =
          tree.without ((name :: names).map fun name => place ++ [.text name]) := by
      simp only [Tree.without, List.filter_filter, List.map_cons, List.mem_cons, List.not_mem_nil,
        or_false, not_or, Bool.decide_and, Bool.and_comm]
    rw [List.map_cons, removing, removed, accessing, Tree.stepOf, Tree.andThen,
      ih holds' others othersDistinct there', together]

end

/-! ## Opening a story -/

/-- Says that a form is looked for no later than another. -/
def IsNoLater (format form : StoryFormat) : Prop :=
  StoryFormat.all.idxOf format ≤ StoryFormat.all.idxOf form

instance decidableIsNoLater (format form : StoryFormat) : Decidable (IsNoLater format form) :=
  inferInstanceAs (Decidable (_ ≤ _))

/-- A script is looked for first, and a document last. -/
theorem isNoLater_script (form : StoryFormat) : IsNoLater .script form :=
  Nat.zero_le _

theorem isNoLater_document (form : StoryFormat) : IsNoLater form .document := by
  cases form <;> decide

/-- Of the files for the slug of a name, the one that is looked for first is opened. -/
theorem openStory_of_first {library : Library} {tree : Tree} {name : String} {format : StoryFormat}
    (isFile : tree.isFile (library.storyPath name format) = true)
    (first : ∀ form, tree.isFile (library.storyPath name form) = true → IsNoLater format form) :
    library.openStory tree name =
      library.readStory tree (library.storyPath name format) format := by
  have found : (StoryFormat.all.find? fun form => tree.isFile (library.storyPath name form)) =
      some format := by
    cases format with
    | script => rw [StoryFormat.all, List.find?_cons, isFile]
    | document =>
      have noScript : tree.isFile (library.storyPath name .script) = false := by
        apply Bool.eq_false_iff.mpr
        intro isScript
        exact absurd (first .script isScript) (by decide)
      rw [StoryFormat.all, List.find?_cons, noScript, List.find?_cons, isFile]
  unfold openStory
  simp only [found]

/-- When there is one file for the slug of a name, it is opened. -/
theorem openStory_of_isFile {library : Library} {tree : Tree} {name : String} {format : StoryFormat}
    (only : ∀ form, tree.isFile (library.storyPath name form) = true ↔ form = format) :
    library.openStory tree name =
      library.readStory tree (library.storyPath name format) format := by
  apply openStory_of_first ((only format).mpr rfl)
  intro form isFile
  rw [(only form).mp isFile]
  exact Nat.le_refl _

/-! ## Saving a story -/

section

variable {library : Library} {tree : Tree} {story : Story} {format : StoryFormat}

theorem mem_stale_iff {title : String} {form : StoryFormat} :
    form ∈ library.stale tree title format ↔
      form ≠ format ∧ tree.isFile (library.storyPath title form) = true := by
  rw [stale, List.mem_filter, and_iff_right (StoryFormat.mem_all form), Bool.and_eq_true,
    decide_eq_true_eq]

/-- The files that are removed have different names. -/
theorem stale_names_nodup (title : String) :
    ((library.stale tree title format).map (fileName title)).Nodup := by
  have distinct : (library.stale tree title format).Nodup :=
    List.Nodup.filter _ (show StoryFormat.all.Nodup by decide)
  refine distinct.map fun form other same => ?_
  exact (fileName_eq_iff.mp same).2

/-- Where the files of the other forms are still there, they are removed. -/
theorem removing_stale {written : Tree} {place : Place} (wellFormed : story.WellFormed)
    (holds : written.Holds library.stories place)
    (there : ∀ form ∈ library.stale tree story.title format, ∃ content changed,
      written.node? (place ++ [.text (fileName story.title form)]) = some (.file content changed)) :
    removing written ((library.stale tree story.title format).map
        (library.storyPath story.title)) =
      (.ok (), written.without ((library.stale tree story.title format).map fun form =>
        place ++ [.text (fileName story.title form)])) := by
  have areNames : ∀ name ∈ (library.stale tree story.title format).map (fileName story.title),
      IsName name := by
    intro name listed
    rcases List.mem_map.mp listed with ⟨form, -, rfl⟩
    exact isName_fileName story.title form
  have areThere : ∀ name ∈ (library.stale tree story.title format).map (fileName story.title),
      Text.byteLength name.toList ≤ Tree.longestName ∧
        ∃ content changed,
          written.node? (place ++ [.text name]) = some (.file content changed) := by
    intro name listed
    rcases List.mem_map.mp listed with ⟨form, isStale, rfl⟩
    exact ⟨byteLength_fileName_le wellFormed form, there form isStale⟩
  have paths : (library.stale tree story.title format).map (library.storyPath story.title) =
      ((library.stale tree story.title format).map (fileName story.title)).map
        (Files.join library.stories) := by
    rw [List.map_map]
    refine List.map_congr_left fun form _ => ?_
    rw [storyPath_eq, Function.comp_apply]
  rw [paths, removing_join holds areNames (stale_names_nodup story.title) areThere, List.map_map,
    Function.comp_def]

theorem checkTitle_cons (library : Library) (tree : Tree) (title : String) (format : StoryFormat)
    (formats : List StoryFormat) :
    library.checkTitle tree title (format :: formats) =
      match library.existing? tree title format with
      | none => checkTitle library tree title formats
      | some story =>
        if story.title = title then checkTitle library tree title formats
        else .error (.otherTitle (library.storyPath title format) story.title title) :=
  rfl

/-- A title that is refused is refused before anything is written. -/
theorem savingStory_of_refused {error : LibraryError}
    (refused : library.checkTitle tree story.title StoryFormat.all = .error error) :
    library.savingStory tree story format = (.error error, tree) := by
  rw [savingStory, refused]
  rfl

/-- A story is saved by writing its file and removing the one of the other form. -/
theorem savingStory_of_written {written left : Tree}
    (checked : library.checkTitle tree story.title StoryFormat.all = .ok ())
    (write : writeFile tree (library.storyPath story.title format) (format.write story) =
      .ok written)
    (removed : removing written ((library.stale tree story.title format).map
      (library.storyPath story.title)) = (.ok (), left)) :
    library.savingStory tree story format = (.ok (library.storyPath story.title format), left) := by
  have writes := Tree.leftBy_eq_ok_iff.mp write
  simp only [savingStory, checked, Tree.andThen, writes, removed]

end

end Library

end Gamebook
