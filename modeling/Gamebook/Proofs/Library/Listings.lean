import Gamebook.Proofs.Files.Rewritten
import Gamebook.Proofs.Library.Listed
import Gamebook.Proofs.Library.Slots

namespace Gamebook

/-!
# Complete listings

A listing has one entry for each file in its directory of which the name is a text with the
right extension.  No content of a file makes it fail: what can be loaded from the file is
shown as ready, and a file from which nothing can be loaded is shown with a short message.
So an entry depends on its own file alone, and a file that is written anew changes no other
entry.

A file whose name is not text is passed over, although it may have the right extension.

Stories and saved sessions are listed in the same way.  What differs is which entries the
files have and in which order the entries are shown.  The argument is made once, for any
entries of which the path tells the file.
-/

/-! ## What there is to list -/

/-- Says that these are the names in a directory.  A directory that is missing has none. -/
inductive Files.Tree.Keeps (tree : Tree) (directory : String) : List (Name × Node) → Prop
  | missing (noPath : tree.hasPath directory = false) : Keeps tree directory []
  | there {place : Place} (leads : tree.LeadsTo directory place)
      (contents : IsContents (tree.children place)) : Keeps tree directory (tree.children place)

/-- A file with a name that is a text, made of a stem and an extension. -/
structure Files.NamedFile where
  stem : String
  extension : String
  content : Content
  changed : Time

namespace Files.NamedFile

def name (file : NamedFile) : String := file.stem ++ "." ++ file.extension

/-- The file as a directory has it. -/
def child (file : NamedFile) : Name × Node := (.text file.name, .file file.content file.changed)

/-- Says that the file is one of the children and that it has one of the extensions.  What
starts with its only dot has no extension. -/
structure IsAmong (children : List (Name × Node)) (extensions : List String)
    (file : NamedFile) : Prop where
  there : file.child ∈ children
  known : file.extension ∈ extensions
  solid : file.stem ≠ ""

end Files.NamedFile

/-- Says that a status tells what can be loaded: it is ready with what is loaded, or
nothing can be loaded and the message is short. -/
inductive Status.Fits {α : Type} (loads : α → Prop) : Status α → Prop
  | ready {value : α} (loaded : loads value) : Fits loads (.ready value)
  | corrupted {message : String} (nothing : ∀ value, ¬ loads value)
      (short : message.length ≤ longestMessage) : Fits loads (.corrupted message)

/-- Says that a story can be loaded in this form, and that this is the report on it. -/
def StoryFormat.Loads (format : StoryFormat) (content : Files.Content) (report : Report) : Prop :=
  ∃ text story, content = .text text ∧ format.Reads text story ∧ report = Report.ofStory story

/-- Says that a session can be loaded, and that this is what the listing tells of it. -/
def Session.Loads (content : Files.Content) (summary : SessionSummary) : Prop :=
  ∃ text session, content = .text text ∧ Session.ofJson text = .ok session ∧
    summary = session.summary

namespace Library

open Files (Tree Place Node Name IsName IsContents NamedFile)

/-- Says that an entry tells of a file in the directory of the stories. -/
structure TellsStory (library : Library) (file : NamedFile) (entry : StoryEntry) : Prop where
  name : entry.name = file.stem
  path : entry.path = Files.join library.stories file.name
  format : entry.format.extension = file.extension
  changed : entry.changed = file.changed
  status : entry.status.Fits (entry.format.Loads file.content)

/-- Says that an entry tells of a file in the directory of the saved sessions. -/
structure TellsSession (library : Library) (file : NamedFile) (entry : SessionEntry) : Prop where
  slot : entry.slot = file.stem
  path : entry.path = Files.join library.saves file.name
  changed : entry.changed = file.changed
  status : entry.status.Fits (Session.Loads file.content)

/-- Stories are listed by name, and then by path. -/
def StoryBefore (a b : StoryEntry) : Prop :=
  a.name < b.name ∨ a.name = b.name ∧ a.path < b.path

/-- Sessions are listed with the last changed first, and then by slot. -/
def SessionBefore (a b : SessionEntry) : Prop :=
  a.changed.isAfter b.changed = true ∨ a.changed = b.changed ∧ a.slot < b.slot

/-- Says that there is exactly one entry for each file that is to be listed, and that the
entries are in order. -/
structure Lists {β : Type} (children : List (Name × Node)) (extensions : List String)
    (tells : NamedFile → β → Prop) (before : β → β → Prop) (entries : List β) : Prop where
  each : ∀ file : NamedFile, file.IsAmong children extensions →
    ∃! entry, entry ∈ entries ∧ tells file entry
  every : ∀ entry ∈ entries, ∃ file : NamedFile,
    file.IsAmong children extensions ∧ tells file entry
  once : entries.Nodup
  sorted : entries.Pairwise before

/-- Says that both listings are made, and that they are complete. -/
structure ListsAll (library : Library) (tree : Tree) (inStories inSaves : List (Name × Node)) :
    Prop where
  stories : ∃ entries, library.listStories tree = .ok entries ∧
    Lists inStories ["paths", "json"] library.TellsStory StoryBefore entries
  sessions : ∃ entries, library.listSessions tree = .ok entries ∧
    Lists inSaves ["json"] library.TellsSession SessionBefore entries

/-- Says that both listings are made again, with the same entries for all files but the one
at a place. -/
structure ListsOthersAlike (library : Library) (tree after : Tree) (spot : Place) : Prop where
  stories : ∃ earlier later, library.listStories tree = .ok earlier ∧
    library.listStories after = .ok later ∧
      ∀ entry, tree.locate entry.path ≠ .ok ⟨spot, false⟩ → (entry ∈ later ↔ entry ∈ earlier)
  sessions : ∃ earlier later, library.listSessions tree = .ok earlier ∧
    library.listSessions after = .ok later ∧
      ∀ entry, tree.locate entry.path ≠ .ok ⟨spot, false⟩ → (entry ∈ later ↔ entry ∈ earlier)

/-! ## Statuses -/

/-- The message is cut to the length that the listing has room for. -/
theorem length_brief_le (error : LibraryError) : error.brief.length ≤ longestMessage := by
  rw [LibraryError.brief]
  split
  · next fits =>
    rw [String.length_toList] at fits
    exact fits
  · rw [String.length_ofList, List.length_append, List.length_take]
    exact Nat.add_le_add_right (Nat.min_le_left _ _) 3

/-- The status of a file fits when the result comes from the text of the file. -/
theorem fits_statusOf {α β : Type} {f : α → β} {result : Except LibraryError α}
    {content : Files.Content} {reads : String → α → Prop}
    (result_iff : ∀ value, result = .ok value ↔ ∃ text, content = .text text ∧ reads text value) :
    (statusOf f result).Fits fun shown =>
      ∃ text value, content = .text text ∧ reads text value ∧ shown = f value := by
  cases result with
  | ok value =>
    rcases (result_iff value).mp rfl with ⟨text, held, read⟩
    exact .ready ⟨text, value, held, read, rfl⟩
  | error error =>
    refine .corrupted ?_ (length_brief_le error)
    rintro shown ⟨text, value, held, read, -⟩
    cases (result_iff value).mpr ⟨text, held, read⟩

end Library

/-! ## Directories that are listed -/

namespace Files.Tree.Keeps

variable {tree : Tree} {directory : String} {children : List (Name × Node)}

theorem isContents (keeps : tree.Keeps directory children) : IsContents children := by
  cases keeps with
  | missing noPath => exact ⟨.nil, nofun, nofun⟩
  | there leads contents => exact contents

/-- A name in the directory is followed into the directory. -/
theorem exists_locate_join (keeps : tree.Keeps directory children) {name : String} {node : Node}
    (member : (.text name, node) ∈ children) :
    ∃ place, tree.locate (join directory name) = .ok ⟨place, false⟩ := by
  cases keeps with
  | missing noPath => cases member
  | @there place leads contents =>
    refine ⟨place ++ [.text name], ?_⟩
    rw [leads.locate_join (contents.names name node member),
      if_neg (Nat.not_lt.mpr (contents.short name node member))]

/-- A file in the directory is read when it is text. -/
theorem read_join_eq_ok_iff (keeps : tree.Keeps directory children) {name text : String}
    {content : Content} {changed : Time}
    (member : (.text name, .file content changed) ∈ children) :
    tree.read (join directory name) = .ok text ↔ content = .text text := by
  cases keeps with
  | missing noPath => cases member
  | there leads contents =>
    have found := (leads.find_join contents.distinct (contents.names _ _ member)).mpr
      ⟨contents.short _ _ member, member⟩
    rw [read, found, ok_bind]
    cases content with
    | text held => simp
    | bytes held => simp

/-- Where a file is rewritten a directory keeps its names, and it keeps its nodes but for
the one file. -/
theorem rewritten {after : Tree} {spot : Place} (keeps : tree.Keeps directory children)
    (rewritten : tree.Rewritten after spot) :
    ∃ later, after.Keeps directory later ∧
      ∀ (name : String) node, tree.locate (join directory name) ≠ .ok ⟨spot, false⟩ →
        ((.text name, node) ∈ later ↔ (.text name, node) ∈ children) := by
  cases keeps with
  | missing noPath =>
    refine ⟨[], .missing ?_, fun _ _ _ => Iff.rfl⟩
    rw [rewritten.hasPath, noPath]
  | @there place leads contents =>
    refine ⟨after.children place, .there (rewritten.leadsTo leads) ⟨?_, ?_, ?_⟩, ?_⟩
    · exact rewritten.distinct contents.distinct
    · intro name node member
      rcases rewritten.exists_child member with ⟨before, isThere⟩
      exact contents.names name before isThere
    · intro name node member
      rcases rewritten.exists_child member with ⟨before, isThere⟩
      exact contents.short name before isThere
    · intro name node elsewhere
      have apart {before : Node} (isThere : (.text name, before) ∈ tree.children place) :
          place ++ [.text name] ≠ spot := by
        rintro rfl
        apply elsewhere
        rw [leads.locate_join (contents.names name before isThere),
          if_neg (Nat.not_lt.mpr (contents.short name before isThere))]
      constructor
      · intro member
        rcases rewritten.exists_child member with ⟨before, isThere⟩
        exact (rewritten.mem_children_iff (apart isThere)).mp member
      · intro member
        exact (rewritten.mem_children_iff (apart member)).mpr member

end Files.Tree.Keeps

namespace Library

open Files (Tree Place Node Name IsName IsContents NamedFile)

section

variable {β : Type} {tree after : Tree} {directory : String} {children : List (Name × Node)}
  {extensions : List String} {listed? : Name × Files.Time → Option β} {path : β → String}
  {tells : NamedFile → β → Prop}

theorem exists_filesOf_of_keeps (keeps : tree.Keeps directory children)
    (listed? : Name × Files.Time → Option β) :
    ∃ files, filesOf tree directory = .ok files ∧
      files.filterMap listed? = children.filterMap (entryOf? listed?) := by
  cases keeps with
  | missing noPath =>
    refine ⟨[], ?_, rfl⟩
    rw [filesOf, noPath, if_neg Bool.false_ne_true]
  | there leads contents => exact exists_filesOf leads listed?

/-- Says that the files among the children are listed by entries that tell of them. -/
structure Shows (children : List (Name × Node)) (directory : String) (extensions : List String)
    (listed? : Name × Files.Time → Option β) (path : β → String)
    (tells : NamedFile → β → Prop) : Prop where
  path : ∀ file entry, tells file entry → path entry = Files.join directory file.name
  exists_entry : ∀ file : NamedFile, file.IsAmong children extensions → ∃ entry,
    listed? (.text file.name, file.changed) = some entry ∧ tells file entry
  exists_file : ∀ name content changed entry, (name, .file content changed) ∈ children →
    listed? (name, changed) = some entry → ∃ file : NamedFile,
      file.child = (name, .file content changed) ∧ file.IsAmong children extensions ∧
        tells file entry

namespace Shows

variable (shows : Shows children directory extensions listed? path tells)

include shows

theorem exists_file_of_entryOf? {child : Name × Node} (member : child ∈ children) {entry : β}
    (shown : entryOf? listed? child = some entry) :
    ∃ file : NamedFile, file.child = child ∧ file.IsAmong children extensions ∧
      tells file entry := by
  rcases child with ⟨name, _ | ⟨content, changed⟩⟩
  · cases shown
  · exact shows.exists_file name content changed entry member shown

/-- Files with different names have entries with different paths. -/
theorem nodup_paths (contents : IsContents children) :
    ((children.filterMap (entryOf? listed?)).map path).Nodup := by
  rw [List.Nodup, List.pairwise_map, List.pairwise_filterMap]
  refine List.Pairwise.imp_of_mem ?_ (List.pairwise_map.mp contents.distinct)
  intro child child' member member' different entry shown entry' shown' samePath
  rcases shows.exists_file_of_entryOf? member shown with ⟨file, rfl, -, tells⟩
  rcases shows.exists_file_of_entryOf? member' shown' with ⟨file', rfl, -, tells'⟩
  rw [shows.path file entry tells, shows.path file' entry' tells'] at samePath
  have sameName := Files.eq_of_join_eq (contents.names _ _ member) (contents.names _ _ member')
    samePath
  exact different (congrArg Name.text sameName)

/-- The entries of the files in order are a complete listing. -/
theorem lists (contents : IsContents children) {inOrder : β → β → Bool}
    (trans : ∀ a b c, inOrder a b = true → inOrder b c = true → inOrder a c = true)
    (total : ∀ a b, (inOrder a b || inOrder b a) = true) {before : β → β → Prop}
    (strict : ∀ a b, (∃ file : NamedFile, file.IsAmong children extensions ∧ tells file a) →
      (∃ file : NamedFile, file.IsAmong children extensions ∧ tells file b) →
        inOrder a b = true → path a ≠ path b → before a b) :
    Lists children extensions tells before
      ((children.filterMap (entryOf? listed?)).mergeSort inOrder) := by
  have once := shows.nodup_paths contents
  generalize isEntries : children.filterMap (entryOf? listed?) = entries at once ⊢
  have mem_iff {entry : β} : entry ∈ entries.mergeSort inOrder ↔
      ∃ child ∈ children, entryOf? listed? child = some entry := by
    rw [List.mem_mergeSort, ← isEntries, List.mem_filterMap]
  have onceSorted := (((List.mergeSort_perm entries inOrder).map path).nodup_iff).mpr once
  have every : ∀ entry ∈ entries.mergeSort inOrder, ∃ file : NamedFile,
      file.IsAmong children extensions ∧ tells file entry := by
    intro entry listed
    rcases mem_iff.mp listed with ⟨child, member, shown⟩
    rcases shows.exists_file_of_entryOf? member shown with ⟨file, -, among, tells⟩
    exact ⟨file, among, tells⟩
  refine ⟨?_, every, List.Nodup.of_map path onceSorted, ?_⟩
  · intro file among
    rcases shows.exists_entry file among with ⟨entry, shown, tells⟩
    have listed := mem_iff.mpr ⟨file.child, among.there, shown⟩
    refine ⟨entry, ⟨listed, tells⟩, ?_⟩
    rintro other ⟨otherListed, otherTells⟩
    apply List.inj_on_of_nodup_map onceSorted otherListed listed
    rw [shows.path file other otherTells, shows.path file entry tells]
  · have sorted := List.pairwise_mergeSort trans total entries
    refine List.Pairwise.imp_of_mem ?_ (sorted.and (List.pairwise_map.mp onceSorted))
    intro a b listedA listedB both
    exact strict a b (every a listedA) (every b listedB) both.1 both.2

end Shows

end

/-! ## Entries of stories -/

section

variable {library : Library} {tree : Tree} {children : List (Name × Node)}

/-- The form of a file is told by its extension. -/
theorem exists_extension {extension : String} (known : extension ∈ ["paths", "json"]) :
    ∃ format : StoryFormat, format.extension = extension := by
  rcases List.mem_cons.mp known with rfl | other
  · exact ⟨.script, rfl⟩
  · exact ⟨.document, (List.mem_singleton.mp other).symm⟩

theorem extension_mem (format : StoryFormat) : format.extension ∈ ["paths", "json"] := by
  cases format <;> decide

/-- The status of a story's file tells what can be loaded from the file. -/
theorem fits_readStory (keeps : tree.Keeps library.stories children) {name : String}
    {content : Files.Content} {changed : Files.Time}
    (member : (.text name, .file content changed) ∈ children) (format : StoryFormat) :
    (statusOf Report.ofStory
      (library.readStory tree (Files.join library.stories name) format)).Fits
        (format.Loads content) := by
  apply fits_statusOf
  intro story
  simp only [readStory_eq_ok_iff, keeps.read_join_eq_ok_iff member]

theorem shows_stories (keeps : tree.Keeps library.stories children) :
    Shows children library.stories ["paths", "json"] (library.listedStory? tree) StoryEntry.path
      library.TellsStory where
  path := fun _ _ tells => tells.path
  exists_entry := by
    intro file among
    rcases exists_extension among.known with ⟨format, isExtension⟩
    refine ⟨⟨file.stem, Files.join library.stories file.name, format, file.changed,
      statusOf Report.ofStory
        (library.readStory tree (Files.join library.stories file.name) format)⟩,
      ?_, rfl, rfl, isExtension, rfl, fits_readStory keeps among.there format⟩
    apply listedStory?_eq_some_iff.mpr
    refine ⟨⟨among.solid, ?_⟩, rfl, rfl, rfl⟩
    rw [isExtension]
    rfl
  exists_file := by
    intro name content changed entry member listed
    rcases listedStory?_eq_some_iff.mp listed with ⟨⟨nonempty, rfl⟩, isPath, sameTime, status⟩
    have path := (Option.some.inj isPath).symm
    refine ⟨⟨entry.name, entry.format.extension, content, changed⟩, rfl,
      ⟨member, extension_mem entry.format, nonempty⟩, rfl, path, rfl, sameTime, ?_⟩
    rw [status, path]
    exact fits_readStory keeps member entry.format

theorem storiesInOrder_trans (a b c : StoryEntry) (first : storiesInOrder a b = true)
    (second : storiesInOrder b c = true) : storiesInOrder a c = true := by
  grind [storiesInOrder]

theorem storiesInOrder_total (a b : StoryEntry) :
    (storiesInOrder a b || storiesInOrder b a) = true := by
  grind [storiesInOrder]

/-- Of two stories in order, the first is listed before the second. -/
theorem storyBefore_of_inOrder {a b : StoryEntry} (inOrder : storiesInOrder a b = true)
    (different : a.path ≠ b.path) : StoryBefore a b := by
  rw [storiesInOrder, Bool.or_eq_true, Bool.and_eq_true] at inOrder
  rcases inOrder with earlier | ⟨sameName, inOrder⟩
  · exact .inl (of_decide_eq_true earlier)
  · refine .inr ⟨of_decide_eq_true sameName, ?_⟩
    rw [← String.not_le]
    intro reversed
    exact different (String.le_antisymm (of_decide_eq_true inOrder) reversed)

theorem listStories_of_keeps (keeps : tree.Keeps library.stories children) :
    library.listStories tree =
      .ok ((children.filterMap (entryOf? (library.listedStory? tree))).mergeSort
        storiesInOrder) := by
  rcases exists_filesOf_of_keeps keeps (library.listedStory? tree) with ⟨files, found, shown⟩
  rw [listStories, found, ok_bind, shown]

theorem lists_stories (keeps : tree.Keeps library.stories children) :
    Lists children ["paths", "json"] library.TellsStory StoryBefore
      ((children.filterMap (entryOf? (library.listedStory? tree))).mergeSort
        storiesInOrder) := by
  apply (shows_stories keeps).lists keeps.isContents storiesInOrder_trans storiesInOrder_total
  intro a b _ _ inOrder different
  exact storyBefore_of_inOrder inOrder different

/-! ## Entries of saved sessions -/

/-- The status of a saved session's file tells what can be loaded from the file. -/
theorem fits_readSession (keeps : tree.Keeps library.saves children) {name : String}
    {content : Files.Content} {changed : Files.Time}
    (member : (.text name, .file content changed) ∈ children) :
    (statusOf Session.summary (library.readSession tree (Files.join library.saves name))).Fits
      (Session.Loads content) := by
  apply fits_statusOf
  intro session
  simp only [readSession_eq_ok_iff, keeps.read_join_eq_ok_iff member]

theorem shows_sessions (keeps : tree.Keeps library.saves children) :
    Shows children library.saves ["json"] (library.listedSession? tree) SessionEntry.path
      library.TellsSession where
  path := fun _ _ tells => tells.path
  exists_entry := by
    intro file among
    refine ⟨⟨file.stem, Files.join library.saves file.name, file.changed,
      statusOf Session.summary (library.readSession tree (Files.join library.saves file.name))⟩,
      ?_, rfl, rfl, rfl, fits_readSession keeps among.there⟩
    apply listedSession?_eq_some_iff.mpr
    refine ⟨⟨among.solid, ?_⟩, rfl, rfl, rfl⟩
    rw [← List.mem_singleton.mp among.known]
    rfl
  exists_file := by
    intro name content changed entry member listed
    rcases listedSession?_eq_some_iff.mp listed with ⟨⟨nonempty, rfl⟩, isPath, sameTime, status⟩
    have path := (Option.some.inj isPath).symm
    refine ⟨⟨entry.slot, "json", content, changed⟩, rfl,
      ⟨member, List.mem_singleton_self _, nonempty⟩, rfl, path, sameTime, ?_⟩
    rw [status, path]
    exact fits_readSession keeps member

/-- Of two times one is later, unless they are the same. -/
theorem isAfter_cases (a b : Files.Time) :
    a.isAfter b = true ∨ a = b ∨ b.isAfter a = true := by
  rcases a with ⟨age, turn⟩
  rcases b with ⟨otherAge, otherTurn⟩
  grind [Files.Time.isAfter]

theorem sessionsInOrder_trans (a b c : SessionEntry) (first : sessionsInOrder a b = true)
    (second : sessionsInOrder b c = true) : sessionsInOrder a c = true := by
  grind [sessionsInOrder, Files.Time.isAfter]

theorem sessionsInOrder_total (a b : SessionEntry) :
    (sessionsInOrder a b || sessionsInOrder b a) = true := by
  have times : a.changed.isAfter b.changed = true ∨ a.changed = b.changed ∨
      b.changed.isAfter a.changed = true := isAfter_cases a.changed b.changed
  grind [sessionsInOrder]

/-- The slot tells the path, because all sessions have the same extension. -/
theorem path_of_slot {a b : SessionEntry}
    (isA : ∃ file : NamedFile, file.IsAmong children ["json"] ∧ library.TellsSession file a)
    (isB : ∃ file : NamedFile, file.IsAmong children ["json"] ∧ library.TellsSession file b)
    (sameSlot : a.slot = b.slot) : a.path = b.path := by
  rcases isA with ⟨file, among, tells⟩
  rcases isB with ⟨file', among', tells'⟩
  rw [tells.path, tells'.path, NamedFile.name, NamedFile.name, ← tells.slot, ← tells'.slot,
    sameSlot, List.mem_singleton.mp among.known, List.mem_singleton.mp among'.known]

/-- Of two sessions in order, the first is listed before the second. -/
theorem sessionBefore_of_inOrder {a b : SessionEntry} (inOrder : sessionsInOrder a b = true)
    (different : a.slot ≠ b.slot) : SessionBefore a b := by
  rw [sessionsInOrder, Bool.or_eq_true, Bool.and_eq_true] at inOrder
  rcases inOrder with later | ⟨sameTime, inOrder⟩
  · exact .inl later
  · refine .inr ⟨of_decide_eq_true sameTime, ?_⟩
    rw [← String.not_le]
    intro reversed
    exact different (String.le_antisymm (of_decide_eq_true inOrder) reversed)

theorem listSessions_of_keeps (keeps : tree.Keeps library.saves children) :
    library.listSessions tree =
      .ok ((children.filterMap (entryOf? (library.listedSession? tree))).mergeSort
        sessionsInOrder) := by
  rcases exists_filesOf_of_keeps keeps (library.listedSession? tree) with ⟨files, found, shown⟩
  rw [listSessions, found, ok_bind, shown]

theorem lists_sessions (keeps : tree.Keeps library.saves children) :
    Lists children ["json"] library.TellsSession SessionBefore
      ((children.filterMap (entryOf? (library.listedSession? tree))).mergeSort
        sessionsInOrder) := by
  apply (shows_sessions keeps).lists keeps.isContents sessionsInOrder_trans sessionsInOrder_total
  intro a b isA isB inOrder different
  apply sessionBefore_of_inOrder inOrder
  intro sameSlot
  exact different (path_of_slot isA isB sameSlot)

end

/-! ## Files that are rewritten -/

section

variable {library : Library} {tree after : Tree} {spot : Place}

/-- An entry of another file is found in both trees, when entries depend on what is read at
their paths. -/
theorem mem_entries_of_rewritten {β : Type} {directory : String}
    {children later : List (Name × Node)} {extensions : List String}
    {earlier? later? : Name × Files.Time → Option β} {path : β → String}
    {tells : NamedFile → β → Prop} (rewritten : tree.Rewritten after spot)
    (keeps : tree.Keeps directory children)
    (shows : Shows children directory extensions earlier? path tells)
    (showsLater : Shows later directory extensions later? path tells)
    (others : ∀ (name : String) node, tree.locate (Files.join directory name) ≠
      .ok ⟨spot, false⟩ → ((.text name, node) ∈ later ↔ (.text name, node) ∈ children))
    (congr : ∀ (name : String) changed,
      after.read (Files.join directory name) = tree.read (Files.join directory name) →
        later? (.text name, changed) = earlier? (.text name, changed))
    {entry : β} (elsewhere : tree.locate (path entry) ≠ .ok ⟨spot, false⟩) :
    entry ∈ later.filterMap (entryOf? later?) ↔ entry ∈ children.filterMap (entryOf? earlier?) := by
  have same {file : NamedFile} (member : file.child ∈ children)
      (apart : tree.locate (Files.join directory file.name) ≠ .ok ⟨spot, false⟩) :
      entryOf? later? file.child = entryOf? earlier? file.child := by
    rcases keeps.exists_locate_join member with ⟨place, located⟩
    apply congr
    apply rewritten.read located
    rintro rfl
    exact apart located
  rw [List.mem_filterMap, List.mem_filterMap]
  constructor
  · rintro ⟨child, member, shown⟩
    rcases showsLater.exists_file_of_entryOf? member shown with ⟨file, rfl, -, tells⟩
    rw [shows.path file entry tells] at elsewhere
    have member' := (others file.name _ elsewhere).mp member
    exact ⟨file.child, member', (same member' elsewhere).symm.trans shown⟩
  · rintro ⟨child, member, shown⟩
    rcases shows.exists_file_of_entryOf? member shown with ⟨file, rfl, -, tells⟩
    rw [shows.path file entry tells] at elsewhere
    have laterMember := (others file.name _ elsewhere).mpr member
    exact ⟨file.child, laterMember, (same member elsewhere).trans shown⟩

theorem listsAll {inStories inSaves : List (Name × Node)}
    (stories : tree.Keeps library.stories inStories) (saves : tree.Keeps library.saves inSaves) :
    library.ListsAll tree inStories inSaves :=
  ⟨⟨_, listStories_of_keeps stories, lists_stories stories⟩,
    ⟨_, listSessions_of_keeps saves, lists_sessions saves⟩⟩

theorem storiesAlike {inStories : List (Name × Node)}
    (stories : tree.Keeps library.stories inStories) (rewritten : tree.Rewritten after spot) :
    ∃ earlier later, library.listStories tree = .ok earlier ∧
      library.listStories after = .ok later ∧
        ∀ entry, tree.locate entry.path ≠ .ok ⟨spot, false⟩ →
          (entry ∈ later ↔ entry ∈ earlier) := by
  rcases stories.rewritten rewritten with ⟨later, keeps, others⟩
  refine ⟨_, _, listStories_of_keeps stories, listStories_of_keeps keeps, ?_⟩
  intro entry elsewhere
  rw [List.mem_mergeSort, List.mem_mergeSort]
  apply mem_entries_of_rewritten rewritten stories (shows_stories stories) (shows_stories keeps)
    others _ elsewhere
  intro name changed same
  simp only [listedStory?, Name.pathIn?_text, Option.bind_eq_bind, Option.bind_some,
    readStory_congr same]

theorem sessionsAlike {inSaves : List (Name × Node)} (saves : tree.Keeps library.saves inSaves)
    (rewritten : tree.Rewritten after spot) :
    ∃ earlier later, library.listSessions tree = .ok earlier ∧
      library.listSessions after = .ok later ∧
        ∀ entry, tree.locate entry.path ≠ .ok ⟨spot, false⟩ →
          (entry ∈ later ↔ entry ∈ earlier) := by
  rcases saves.rewritten rewritten with ⟨later, keeps, others⟩
  refine ⟨_, _, listSessions_of_keeps saves, listSessions_of_keeps keeps, ?_⟩
  intro entry elsewhere
  rw [List.mem_mergeSort, List.mem_mergeSort]
  apply mem_entries_of_rewritten rewritten saves (shows_sessions saves) (shows_sessions keeps)
    others _ elsewhere
  intro name changed same
  rw [listedSession?, listedSession?]
  refine bind_congr fun _ => bind_congr fun slot => ?_
  simp only [Name.pathIn?_text, Option.bind_eq_bind, Option.bind_some, readSession_congr same]

end

theorem isContents_singleton {name : String} (node : Node) (isName : IsName name)
    (short : Text.byteLength name.toList ≤ Tree.longestName) : IsContents [(.text name, node)] := by
  refine ⟨List.nodup_singleton _, ?_, ?_⟩
  · intro other _ member
    cases List.mem_singleton.mp member
    exact isName
  · intro other _ member
    cases List.mem_singleton.mp member
    exact short

theorem keeps_stories_coast (story old : String) :
    (coastFiles story old).Keeps (coast "saves").stories
      [("cove.json", .file (.text story) ⟨0, 0⟩)] := by
  have leads : (coastFiles story old).LeadsTo (coast "saves").stories ["data", "stories"] :=
    ⟨rfl, rfl⟩
  apply Tree.Keeps.there leads
  apply isContents_singleton
  · exact ⟨by decide, by decide, rfl, by decide⟩
  · decide

theorem keeps_saves_coast (story old : String) :
    (coastFiles story old).Keeps (coast "saves").saves
      [("old.json", .file (.text old) ⟨0, 0⟩)] := by
  have leads : (coastFiles story old).LeadsTo (coast "saves").saves ["data", "saves"] :=
    ⟨rfl, rfl⟩
  apply Tree.Keeps.there leads
  apply isContents_singleton
  · exact ⟨by decide, by decide, rfl, by decide⟩
  · decide

theorem rewritten_coast (story old fresh : String) :
    (coastFiles story old).Rewritten (coastFiles story fresh) ["data", "saves", "old.json"] :=
  ⟨⟨.text old, ⟨0, 0⟩, rfl⟩, ⟨.text fresh, ⟨0, 0⟩, rfl⟩⟩

/-- Says whether a child is a file with one of the extensions, whatever its stem. -/
def hasExtension (extensions : List String) (child : Name × Node) : Bool :=
  match child.2 with
  | .file .. => child.1.extension?.any extensions.contains
  | .directory => false

/-- Says that the stories are listed by as many entries as there are files with the
extension of a story. -/
def ListsEveryFile (library : Library) (tree : Tree) (children : List (Name × Node)) : Prop :=
  ∃ entries, library.listStories tree = .ok entries ∧
    entries.length = children.countP (hasExtension ["paths", "json"])

/-- A name with the extension of a script.  The byte before the dot is in no text. -/
def driftName : Name := .bytes [255, 46, 112, 97, 116, 104, 115] rfl

/-- The files of the library, with a script under that name. -/
def drift : Tree :=
  strandFiles driftName (.file (.text (StoryFormat.script.write dryTide)) ⟨0, 0⟩)

theorem keeps_stories_drift :
    drift.Keeps (strand "stories").stories
      [(driftName, .file (.text (StoryFormat.script.write dryTide)) ⟨0, 0⟩)] := by
  have leads : drift.LeadsTo (strand "stories").stories ["data", "stories"] := ⟨rfl, rfl⟩
  apply Tree.Keeps.there leads
  refine ⟨List.nodup_singleton _, ?_, ?_⟩
  · intro name node member
    cases List.mem_singleton.mp member
  · intro name node member
    cases List.mem_singleton.mp member

end Library

end Gamebook
