import Gamebook.Proofs.Library.Entries

namespace Gamebook

/-!
# The library as a map from slugs to stories

A library is used from an empty directory on.  Each call that saves a story is
noted if it succeeds, and the notes alone say what the library holds: under each
slug the story that was saved last.

The notes and the files are kept together by an invariant.  Each file in the
directory is that of the last story under its slug, in the form in which it was
saved, and each such story has its file.  So a slug has one file, although there
are two names that it could have.
-/

/-- A story that is saved, and the form in which it is saved. -/
abbrev Save := Story × StoryFormat

/-- A library in use: its files, and the saves that succeeded, the latest first. -/
structure Usage where
  tree : Files.Tree
  saved : List Save

/-- The last save under a slug. -/
def Usage.last? (usage : Usage) (key : String) : Option Save :=
  usage.saved.find? fun save => slug save.1.title = key

/-- Save a story.  The files are those that the save leaves, be it done or failed, and
only a save that is done is noted. -/
def Library.use (library : Library) (usage : Usage) (save : Save) : Usage :=
  match library.savingStory usage.tree save.1 save.2 with
  | (.ok _, left) => ⟨left, save :: usage.saved⟩
  | (.error _, left) => ⟨left, usage.saved⟩

theorem Usage.slug_of_last? {usage : Usage} {key : String} {save : Save}
    (last : usage.last? key = some save) : slug save.1.title = key := by
  have found := List.find?_some last
  exact of_decide_eq_true found

theorem Usage.mem_of_last? {usage : Usage} {key : String} {save : Save}
    (last : usage.last? key = some save) : save ∈ usage.saved :=
  List.mem_of_find?_eq_some last

/-- A save replaces the one under its slug and no other. -/
theorem Usage.last?_cons (tree : Files.Tree) (save : Save) (saved : List Save) (key : String) :
    Usage.last? ⟨tree, save :: saved⟩ key =
      if slug save.1.title = key then some save else Usage.last? ⟨tree, saved⟩ key := by
  rw [last?, List.find?_cons]
  split
  · next same => rw [if_pos (of_decide_eq_true same)]
  · next different => rw [if_neg (of_decide_eq_false different), last?]

namespace Library

open Files (Tree Place Node Name)

-- Files are compared by `fileName_eq_iff` and read by `readStory_of_read`, and never
-- by running the slugs and the readers.
attribute [local irreducible] storyPath fileName listedStory?

/-- The child of the directory that is the file of a save. -/
def IsFileOf (save : Save) (child : Name × Node) : Prop :=
  ∃ changed,
    child = (.text (fileName save.1.title save.2), .file (.text (save.2.write save.1)) changed)

/-- The files in the directory of the stories are those of the last saves. -/
structure Shelved (library : Library) (place : Place) (usage : Usage) : Prop where
  leads : usage.tree.LeadsTo library.stories place
  distinct : usage.tree.Distinct place
  wellFormed : ∀ save ∈ usage.saved, save.1.WellFormed
  onlyLast : ∀ child ∈ usage.tree.children place, ∃ save,
    usage.last? (slug save.1.title) = some save ∧ IsFileOf save child
  everyLast : ∀ save, usage.last? (slug save.1.title) = some save →
    ∃ child ∈ usage.tree.children place, IsFileOf save child

section

variable {library : Library} {place : Place} {usage : Usage}

/-! ## Looking at the files -/

/-- A name has a file when the last save under its slug has the file's form. -/
theorem Shelved.isFile_storyPath (shelved : library.Shelved place usage) (name : String)
    (format : StoryFormat) :
    usage.tree.isFile (library.storyPath name format) = true ↔
      ∃ story, usage.last? (slug name) = some (story, format) := by
  rw [storyPath_eq, shelved.leads.isFile_join shelved.distinct (isName_fileName name format)]
  constructor
  · rintro ⟨-, content, changed, member⟩
    rcases shelved.onlyLast _ member with ⟨save, last, time, same⟩
    have sameName := Name.text.inj (congrArg Prod.fst same)
    rcases fileName_eq_iff.mp sameName with ⟨sameSlug, sameFormat⟩
    rw [← sameSlug] at last
    exact ⟨save.1, sameFormat ▸ last⟩
  · rintro ⟨story, last⟩
    have sameSlug := Usage.slug_of_last? last
    have wellFormed := shelved.wellFormed _ (Usage.mem_of_last? last)
    rcases shelved.everyLast (story, format) (sameSlug ▸ last) with ⟨child, member, time, rfl⟩
    rw [fileName_eq_iff.mpr ⟨sameSlug.symm, rfl⟩]
    exact ⟨byteLength_fileName_le wellFormed format, _, _, member⟩

/-- The last save under a slug is read back from its file. -/
theorem Shelved.readStory_storyPath (shelved : library.Shelved place usage) {name : String}
    {story : Story} {format : StoryFormat} (last : usage.last? (slug name) = some (story, format)) :
    library.readStory usage.tree (library.storyPath name format) format = .ok story := by
  have sameSlug := Usage.slug_of_last? last
  have wellFormed := shelved.wellFormed _ (Usage.mem_of_last? last)
  rcases shelved.everyLast (story, format) (sameSlug ▸ last) with ⟨child, member, time, rfl⟩
  rw [storyPath_eq, fileName_eq_iff.mpr ⟨sameSlug.symm, rfl⟩]
  apply readStory_of_read wellFormed
  exact shelved.leads.read_join shelved.distinct (isName_fileName _ _)
    (byteLength_fileName_le wellFormed format) member

theorem Shelved.existing?_eq_some_iff (shelved : library.Shelved place usage) {name : String}
    {format : StoryFormat} {story : Story} :
    library.existing? usage.tree name format = some story ↔
      usage.last? (slug name) = some (story, format) := by
  rw [existing?]
  constructor
  · intro found
    split at found
    · next isFile =>
      rcases (shelved.isFile_storyPath name format).mp isFile with ⟨kept, last⟩
      rw [shelved.readStory_storyPath last] at found
      cases found
      exact last
    · cases found
  · intro last
    rw [if_pos ((shelved.isFile_storyPath name format).mpr ⟨story, last⟩),
      shelved.readStory_storyPath last]
    rfl

/-- A story is opened as it was saved last under the slug of the name. -/
theorem Shelved.openStory_of_last (shelved : library.Shelved place usage) {name : String}
    {save : Save} (last : usage.last? (slug name) = some save) :
    library.openStory usage.tree name = .ok save.1 := by
  rcases save with ⟨story, format⟩
  rw [openStory_of_isFile, shelved.readStory_storyPath last]
  intro form
  rw [shelved.isFile_storyPath, last]
  constructor
  · rintro ⟨other, same⟩
    cases same
    rfl
  · rintro rfl
    exact ⟨story, rfl⟩

theorem Shelved.openStory_of_none (shelved : library.Shelved place usage) {name : String}
    (none_saved : usage.last? (slug name) = none) :
    library.openStory usage.tree name = .error (.notFound .story name) := by
  have noFile (form : StoryFormat) :
      usage.tree.isFile (library.storyPath name form) = false := by
    rw [← Bool.not_eq_true, shelved.isFile_storyPath, none_saved]
    rintro ⟨story, same⟩
    cases same
  have found : (StoryFormat.all.find? fun form => usage.tree.isFile (library.storyPath name form)) =
      none := by
    simp only [noFile]
    rfl
  unfold openStory
  simp only [found]

/-- A title is refused when the last save under its slug has another title. -/
theorem Shelved.checkTitle_eq_error_iff (shelved : library.Shelved place usage) {title : String}
    {formats : List StoryFormat} {error : LibraryError} :
    library.checkTitle usage.tree title formats = .error error ↔
      ∃ earlier format, usage.last? (slug title) = some (earlier, format) ∧ format ∈ formats ∧
        earlier.title ≠ title ∧
          error = .otherTitle (library.storyPath title format) earlier.title title := by
  induction formats with
  | nil =>
    refine iff_of_false nofun ?_
    rintro ⟨_, _, -, none, -⟩
    cases none
  | cons format formats ih =>
    rw [checkTitle_cons]
    cases found : library.existing? usage.tree title format with
    | none =>
      refine ih.trans ⟨?_, ?_⟩
      · rintro ⟨earlier, form, last, member, refused⟩
        exact ⟨earlier, form, last, List.mem_cons_of_mem format member, refused⟩
      · rintro ⟨earlier, form, last, member, refused⟩
        rcases List.mem_cons.mp member with rfl | member
        · rw [shelved.existing?_eq_some_iff.mpr last] at found
          cases found
        · exact ⟨earlier, form, last, member, refused⟩
    | some story =>
      have last := shelved.existing?_eq_some_iff.mp found
      simp only [last, Option.some.injEq, Prod.mk.injEq]
      by_cases same : story.title = title
      · rw [if_pos same, ih]
        refine iff_of_false ?_ ?_
        · rintro ⟨earlier, form, last', -, other, -⟩
          rw [last] at last'
          cases last'
          exact other same
        · rintro ⟨earlier, form, ⟨rfl, rfl⟩, -, other, -⟩
          exact other same
      · rw [if_neg same, Except.error.injEq]
        constructor
        · rintro rfl
          exact ⟨story, format, ⟨rfl, rfl⟩, List.mem_cons_self, same, rfl⟩
        · rintro ⟨earlier, form, ⟨rfl, rfl⟩, -, -, rfl⟩
          rfl

/-! ## Saving -/

/-- A file is written into a directory that is there without making directories. -/
theorem writeFile_join {tree after : Tree} {path name text : String} {place : Place}
    (leads : tree.LeadsTo path place) (isName : Files.IsName name)
    (written : tree.write (Files.join path name) (.text text) = .ok after) :
    writeFile tree (Files.join path name) text = .ok after :=
  (writeFile_eq_ok_iff (Files.parent?_join isName path)).mpr
    ⟨tree, leads.makeDirectories_trimmed, written⟩

/-- There is nothing but files in the directory. -/
theorem Shelved.noDirectory (shelved : library.Shelved place usage) (name : String) :
    (.text name, .directory) ∉ usage.tree.children place := by
  intro member
  rcases shelved.onlyLast _ member with ⟨save, -, changed, same⟩
  cases same

/-- What a save leaves over are the files of the other forms in the directory. -/
theorem Shelved.stale_iff (shelved : library.Shelved place usage) {story : Story}
    (wellFormed : story.WellFormed) {format form : StoryFormat} :
    form ∈ library.stale usage.tree story.title format ↔
      form ≠ format ∧ ∃ content changed,
        (.text (fileName story.title form), .file content changed) ∈
          usage.tree.children place := by
  rw [mem_stale_iff, storyPath_eq,
    shelved.leads.isFile_join shelved.distinct (isName_fileName _ _)]
  exact and_congr_right fun _ => and_iff_right (byteLength_fileName_le wellFormed form)

/-- A story whose title is not refused is saved, and its file takes the place of the
files that were there under its slug. -/
theorem Shelved.exists_savingStory (shelved : library.Shelved place usage) {story : Story}
    (wellFormed : story.WellFormed) (format : StoryFormat)
    (checked : library.checkTitle usage.tree story.title StoryFormat.all = .ok ()) :
    ∃ after, library.savingStory usage.tree story format =
        (.ok (library.storyPath story.title format), after) ∧
      after.LeadsTo library.stories place ∧ after.Distinct place ∧
        ∃ changed, ∀ child, child ∈ after.children place ↔
          child =
            (.text (fileName story.title format), .file (.text (format.write story)) changed) ∨
          child ∈ usage.tree.children place ∧
            ∀ form, child.1 ≠ .text (fileName story.title form) := by
  have short := byteLength_fileName_le wellFormed
  have isName := isName_fileName story.title format
  rcases shelved.leads.write_join shelved.distinct isName (short format)
    (shelved.noDirectory _) (.text (format.write story)) with
    ⟨written, changed, write, leads, children⟩
  have distinct := shelved.distinct.of_put children
  have there : ∀ form ∈ library.stale usage.tree story.title format, ∃ content changed,
      written.node? (place ++ [.text (fileName story.title form)]) =
        some (.file content changed) := by
    intro form isStale
    rcases (shelved.stale_iff wellFormed).mp isStale with ⟨isOther, content, time, member⟩
    refine ⟨content, time, (Tree.node?_concat distinct (isName_fileName _ _)).mpr ?_⟩
    refine children.mem_iff.mpr (List.mem_cons_of_mem _ (List.mem_filter.mpr ⟨member, ?_⟩))
    exact decide_eq_true fun same => isOther (fileName_eq_iff.mp (Name.text.inj same)).2
  have areFiles : ∀ gone ∈ (library.stale usage.tree story.title format).map fun form =>
      place ++ [.text (fileName story.title form)], ∃ content changed,
        written.node? gone = some (.file content changed) := by
    intro gone listed
    rcases List.mem_map.mp listed with ⟨form, isStale, rfl⟩
    exact there form isStale
  refine ⟨_, ?_, leads.of_directories fun _ => Tree.directory_without areFiles,
    distinct.without _, changed, fun child => ?_⟩
  · have wrote : writeFile usage.tree (library.storyPath story.title format)
        (format.write story) = .ok written := by
      rw [storyPath_eq]
      exact writeFile_join shelved.leads isName write
    exact savingStory_of_written checked wrote (removing_stale wellFormed (.inr leads) there)
  · rw [Tree.mem_children_without, children.mem_iff, List.mem_cons, List.mem_filter,
      decide_eq_true_eq, List.mem_map, not_exists]
    constructor
    · rintro ⟨rfl | ⟨old, apart⟩, others⟩
      · exact .inl rfl
      · refine .inr ⟨old, fun form same => ?_⟩
        rcases shelved.onlyLast child old with ⟨kept, -, time, rfl⟩
        dsimp only at same
        rw [same] at old
        refine others form ⟨(shelved.stale_iff wellFormed).mpr ⟨?_, _, time, old⟩, ?_⟩
        · rintro rfl
          exact apart same
        · rw [same]
    · rintro (rfl | ⟨old, apart⟩)
      · refine ⟨.inl rfl, ?_⟩
        rintro other ⟨isStale, same⟩
        have sameName := Tree.concat_text_inj.mp same
        exact ((shelved.stale_iff wellFormed).mp isStale).1 (fileName_eq_iff.mp sameName).2
      · refine ⟨.inr ⟨old, apart format⟩, ?_⟩
        rintro other ⟨-, same⟩
        exact apart other (List.singleton_inj.mp (List.append_cancel_left same)).symm

/-- Saving keeps the files and the notes together, whether it succeeds or not. -/
theorem Shelved.use (shelved : library.Shelved place usage) {save : Save}
    (wellFormed : save.1.WellFormed) : library.Shelved place (library.use usage save) := by
  rcases save with ⟨story, format⟩
  unfold Library.use
  cases checked : library.checkTitle usage.tree story.title StoryFormat.all with
  | error error =>
    simp only [savingStory_of_refused checked]
    exact shelved
  | ok value =>
    rcases shelved.exists_savingStory wellFormed format checked with
      ⟨after, saved, leads, distinct, changed, children⟩
    simp only [saved]
    refine ⟨leads, distinct, List.forall_mem_cons.mpr ⟨wellFormed, shelved.wellFormed⟩, ?_, ?_⟩
    · intro child member
      rcases (children child).mp member with rfl | ⟨old, apart⟩
      · refine ⟨(story, format), ?_, changed, rfl⟩
        rw [Usage.last?_cons, if_pos rfl]
      · rcases shelved.onlyLast child old with ⟨kept, last, isFile⟩
        rcases isFile with ⟨time, rfl⟩
        refine ⟨kept, ?_, time, rfl⟩
        rw [Usage.last?_cons, if_neg]
        · exact last
        · exact fun same => apart kept.2 (congrArg Name.text (fileName_eq_iff.mpr ⟨same.symm, rfl⟩))
    · intro kept last
      rw [Usage.last?_cons] at last
      split at last
      · cases last
        exact ⟨_, (children _).mpr (.inl rfl), changed, rfl⟩
      · next different =>
        rcases shelved.everyLast kept last with ⟨child, member, time, rfl⟩
        refine ⟨_, (children _).mpr (.inr ⟨member, fun form same => ?_⟩), time, rfl⟩
        exact different (fileName_eq_iff.mp (Name.text.inj same)).1.symm

/-- Nothing is on the shelf of an empty directory. -/
theorem exists_shelved_of_empty {tree : Tree} (empty : tree.list library.stories = .ok []) :
    ∃ place, library.Shelved place ⟨tree, []⟩ := by
  rcases Files.Tree.exists_leadsTo_of_list empty with ⟨place, leads, children⟩
  refine ⟨place, leads, ?_, List.forall_mem_nil _, ?_, fun save last => nomatch last⟩
  · rw [Files.Tree.Distinct, children]
    exact .nil
  · rw [children]
    exact List.forall_mem_nil _

theorem Shelved.run (shelved : library.Shelved place usage) {saves : List Save}
    (wellFormed : ∀ save ∈ saves, save.1.WellFormed) :
    library.Shelved place (saves.foldl library.use usage) := by
  induction saves generalizing usage with
  | nil => exact shelved
  | cons save saves ih =>
    rcases List.forall_mem_cons.mp wellFormed with ⟨first, others⟩
    rw [List.foldl_cons]
    exact ih (shelved.use first) others

/-- A save fails exactly when the title is refused, and then it has changed nothing. -/
theorem Shelved.savingStory_eq_error_iff (shelved : library.Shelved place usage) {story : Story}
    (wellFormed : story.WellFormed) {format : StoryFormat} {error : LibraryError} {left : Tree} :
    library.savingStory usage.tree story format = (.error error, left) ↔
      left = usage.tree ∧
        library.checkTitle usage.tree story.title StoryFormat.all = .error error := by
  cases checked : library.checkTitle usage.tree story.title StoryFormat.all with
  | error refusal =>
    rw [savingStory_of_refused checked, Prod.mk.injEq, and_comm, eq_comm (a := left)]
    simp only [Except.error.injEq]
  | ok value =>
    rcases shelved.exists_savingStory wellFormed format checked with ⟨after, saved, -⟩
    rw [saved]
    apply iff_of_false
    · intro refused
      exact error_ne_ok (congrArg Prod.fst refused).symm
    · rintro ⟨-, refused⟩
      exact error_ne_ok refused.symm

/-! ## Listing -/

/-- The file of a last save is listed under its slug, with the report on its story. -/
theorem Shelved.exists_entry (shelved : library.Shelved place usage) {child : Name × Node}
    (member : child ∈ usage.tree.children place) :
    ∃ save entry, usage.last? (slug save.1.title) = some save ∧ IsFileOf save child ∧
      entryOf? (library.listedStory? usage.tree) child = some entry ∧
        entry.name = slug save.1.title ∧ entry.status = .ready (Report.ofStory save.1) := by
  rcases shelved.onlyLast child member with ⟨⟨story, format⟩, last, time, rfl⟩
  refine ⟨_, _, last, ⟨time, rfl⟩, listedStory?_fileName .., rfl, ?_⟩
  rw [shelved.readStory_storyPath last, statusOf]

/-- What is listed under a slug tells of the last save under it. -/
theorem Shelved.last_of_shown (shelved : library.Shelved place usage) {child : Name × Node}
    (member : child ∈ usage.tree.children place) {entry : StoryEntry}
    (shown : entryOf? (library.listedStory? usage.tree) child = some entry) :
    ∃ save, usage.last? entry.name = some save ∧ IsFileOf save child ∧
      entry.status = .ready (Report.ofStory save.1) := by
  rcases shelved.exists_entry member with ⟨save, other, last, isFile, shown', name, status⟩
  cases shown'.symm.trans shown
  exact ⟨save, name ▸ last, isFile, status⟩

/-- The listing has one entry for each slug under which a story was saved. -/
theorem Shelved.exists_listStories (shelved : library.Shelved place usage) :
    ∃ entries, library.listStories usage.tree = .ok entries ∧
      (entries.map StoryEntry.name).Nodup ∧
        (∀ key, key ∈ entries.map StoryEntry.name ↔ (usage.last? key).isSome = true) ∧
          ∀ entry ∈ entries, ∃ save, usage.last? entry.name = some save ∧
            entry.status = .ready (Report.ofStory save.1) := by
  refine ⟨_, listStories_eq shelved.leads, ?_, fun key => ?_, fun entry listed => ?_⟩
  · rw [((List.mergeSort_perm _ _).map _).nodup_iff, List.Nodup, List.pairwise_map,
      List.pairwise_filterMap]
    refine List.Pairwise.imp_of_mem ?_ (List.pairwise_map.mp shelved.distinct)
    intro child child' member member' different entry shown entry' shown' sameName
    rcases shelved.last_of_shown member shown with ⟨save, last, ⟨_, rfl⟩, -⟩
    rcases shelved.last_of_shown member' shown' with ⟨save', last', ⟨_, rfl⟩, -⟩
    rw [sameName, last'] at last
    cases last
    exact different rfl
  · rw [((List.mergeSort_perm _ _).map _).mem_iff, List.mem_map]
    constructor
    · rintro ⟨entry, listed, rfl⟩
      rcases List.mem_filterMap.mp listed with ⟨child, member, shown⟩
      rcases shelved.last_of_shown member shown with ⟨save, last, -⟩
      rw [last]
      rfl
    · intro isSome
      rcases Option.isSome_iff_exists.mp isSome with ⟨save, last⟩
      have sameSlug := Usage.slug_of_last? last
      rcases shelved.everyLast save (sameSlug ▸ last) with ⟨child, member, _, rfl⟩
      rcases shelved.exists_entry member with ⟨save', entry, last', ⟨_, same⟩, shown, name, -⟩
      have sameFile := (fileName_eq_iff.mp (Name.text.inj (congrArg Prod.fst same))).1
      refine ⟨entry, List.mem_filterMap.mpr ⟨_, member, shown⟩, ?_⟩
      rw [name, ← sameFile, sameSlug]
  · rw [List.mem_mergeSort, List.mem_filterMap] at listed
    rcases listed with ⟨child, member, shown⟩
    rcases shelved.last_of_shown member shown with ⟨save, last, -, status⟩
    exact ⟨save, last, status⟩

end

/-! ## The library as a map -/

/-- What a map from slugs to the stories saved last does.  A story is refused when
the one under its slug has another title, and the files stay as they were.  Otherwise
it is saved.  A name opens what was saved last under its slug, and the listing shows
each slug once, with the report on its story. -/
structure ActsAsMap (library : Library) (usage : Usage) : Prop where
  refuses : ∀ story format error left, story.WellFormed →
    (library.savingStory usage.tree story format = (.error error, left) ↔
      left = usage.tree ∧
        ∃ earlier form, usage.last? (slug story.title) = some (earlier, form) ∧
          earlier.title ≠ story.title ∧
            error = .otherTitle (library.storyPath story.title form) earlier.title story.title)
  saves : ∀ story format, story.WellFormed →
    (∀ save, usage.last? (slug story.title) = some save → save.1.title = story.title) →
      ∃ left, library.savingStory usage.tree story format =
        (.ok (library.storyPath story.title format), left)
  opens : ∀ name save, usage.last? (slug name) = some save → ∃ opened,
    library.openStory usage.tree name = .ok opened ∧ opened.identical save.1 = true ∧
      opened = save.1
  misses : ∀ name, usage.last? (slug name) = none →
    library.openStory usage.tree name = .error (.notFound .story name)
  lists : ∃ entries, library.listStories usage.tree = .ok entries ∧
    (entries.map StoryEntry.name).Nodup ∧
      (∀ key, key ∈ entries.map StoryEntry.name ↔ (usage.last? key).isSome = true) ∧
        ∀ entry ∈ entries, ∃ save, usage.last? entry.name = some save ∧
          entry.status = .ready (Report.ofStory save.1)

theorem Shelved.actsAsMap {library : Library} {place : Place} {usage : Usage}
    (shelved : library.Shelved place usage) : library.ActsAsMap usage where
  refuses := by
    intro story format error left wellFormed
    rw [shelved.savingStory_eq_error_iff wellFormed, shelved.checkTitle_eq_error_iff]
    simp only [StoryFormat.mem_all, true_and]
  saves := by
    intro story format wellFormed same
    have checked : library.checkTitle usage.tree story.title StoryFormat.all = .ok () := by
      cases checked : library.checkTitle usage.tree story.title StoryFormat.all with
      | ok value => rfl
      | error error =>
        rcases shelved.checkTitle_eq_error_iff.mp checked with ⟨earlier, form, last, -, other, -⟩
        exact absurd (same _ last) other
    rcases shelved.exists_savingStory wellFormed format checked with ⟨left, saved, -⟩
    exact ⟨left, saved⟩
  opens := by
    intro name save last
    have saved := shelved.wellFormed save (Usage.mem_of_last? last)
    exact ⟨save.1, shelved.openStory_of_last last, Story.identical_self saved, rfl⟩
  misses := by
    intro name none_saved
    exact shelved.openStory_of_none none_saved
  lists := shelved.exists_listStories

/-- However often stories are saved into a library that is empty at first, it acts
as a map from slugs to the stories saved last. -/
theorem actsAsMap_of_empty (library : Library) (tree : Tree) (saves : List Save)
    (empty : tree.list library.stories = .ok [])
    (wellFormed : ∀ save ∈ saves, save.1.WellFormed) :
    library.ActsAsMap (saves.foldl library.use ⟨tree, []⟩) := by
  rcases exists_shelved_of_empty empty with ⟨place, start⟩
  exact (start.run wellFormed).actsAsMap

/-- Stories of which two have titles with the same slug. -/
def crowded : List Save :=
  [(⟨"The Dock", ⟨"Dock", "Gulls.", .calm, false, []⟩, []⟩, .script),
    (⟨"the dock!", ⟨"Dock", "Fog.", .none, false, []⟩, []⟩, .document),
    (⟨"The Dock", ⟨"Dock", "Rain.", .none, false, []⟩, []⟩, .document)]

theorem actsAsMap_of_empty_crowded :
    (Tree.empty.addDirectory "data/stories").list "data/stories" = .ok [] ∧
      (∀ save ∈ crowded, save.1.WellFormed) ∧
        (Library.mk "data/stories" "data/saves" .silent).ActsAsMap
          (crowded.foldl (Library.use ⟨"data/stories", "data/saves", .silent⟩)
            ⟨Tree.empty.addDirectory "data/stories", []⟩) :=
  ⟨by decide, by decide, actsAsMap_of_empty _ _ crowded (by decide) (by decide)⟩

end Library

end Gamebook
