import Gamebook.Proofs.Library.Filing

namespace Gamebook

/-!
# The entries of files

A listing asks each file in its directory for an entry.  A file has one when its name is a
text that is cut into a stem and a known extension, and nothing is asked of what the file
holds.  So a file whose name is not text has no entry, whatever its extension.
-/

namespace Library

open Files (Tree Place Node Name)

-- Files are compared by `fileName_eq_iff`, and never by running the slugs.
attribute [local irreducible] storyPath fileName

/-- The entry of a child, when the child is a file that has one. -/
def entryOf? {β : Type} (listed? : Name × Files.Time → Option β) (child : Name × Node) :
    Option β :=
  match child.2 with
  | .file _ changed => listed? (child.1, changed)
  | .directory => none

/-- The files of a directory are its children that are files. -/
theorem exists_filesOf {β : Type} {tree : Tree} {directory : String} {place : Place}
    (leads : tree.LeadsTo directory place) (listed? : Name × Files.Time → Option β) :
    ∃ files, filesOf tree directory = .ok files ∧
      files.filterMap listed? = (tree.children place).filterMap (entryOf? listed?) := by
  rw [filesOf, if_pos leads.hasPath, leads.list, accessing, ok_bind]
  refine ⟨_, rfl, ?_⟩
  rw [List.filterMap_filterMap]
  apply List.filterMap_congr
  rintro ⟨name, _ | _⟩ _ <;> rfl

/-! ## Stories -/

section

variable {library : Library} {tree : Tree} {name : Name} {changed : Files.Time}

/-- A file is listed when its name is a stem with the extension of a form, and its entry has
the stem for a name. -/
theorem listedStory?_eq_some_iff {entry : StoryEntry} :
    library.listedStory? tree (name, changed) = some entry ↔
      (entry.name ≠ "" ∧ name = .text (entry.name ++ "." ++ entry.format.extension)) ∧
        name.pathIn? library.stories = some entry.path ∧ entry.changed = changed ∧
          entry.status =
            statusOf Report.ofStory (library.readStory tree entry.path entry.format) := by
  rw [← Name.cut_iff entry.format.noDot]
  constructor
  · intro shown
    rcases Option.bind_eq_some_iff.mp shown with ⟨format, isFormat, rest⟩
    rcases Option.bind_eq_some_iff.mp isFormat with ⟨extension, isExtension, known⟩
    rcases Option.bind_eq_some_iff.mp rest with ⟨stem, isStem, rest⟩
    rcases Option.bind_eq_some_iff.mp rest with ⟨path, isPath, same⟩
    cases same
    rw [StoryFormat.ofExtension?_eq_some_iff] at known
    exact ⟨⟨isStem, known ▸ isExtension⟩, isPath, rfl, rfl⟩
  · rintro ⟨⟨isStem, isExtension⟩, isPath, time, status⟩
    have isFormat : name.extension?.bind StoryFormat.ofExtension? = some entry.format := by
      rw [isExtension, Option.bind_some, StoryFormat.ofExtension?_eq_some_iff]
    rcases entry with ⟨stem, path, format, shownTime, shownStatus⟩
    dsimp only at isStem isFormat isPath time status
    rw [listedStory?, isFormat, isStem, isPath, time, status]
    rfl

/-- A file whose name is not text is passed over. -/
theorem listedStory?_bytes (bytes : List UInt8) (notText : Files.decode? bytes = none) :
    library.listedStory? tree (.bytes bytes notText, changed) = none := by
  by_contra shown
  rcases Option.ne_none_iff_exists'.mp shown with ⟨entry, listed⟩
  cases (listedStory?_eq_some_iff.mp listed).1.2

theorem listStories_eq {place : Place} (leads : tree.LeadsTo library.stories place) :
    library.listStories tree =
      .ok (((tree.children place).filterMap (entryOf? (library.listedStory? tree))).mergeSort
        storiesInOrder) := by
  rcases exists_filesOf leads (library.listedStory? tree) with ⟨files, found, shown⟩
  rw [listStories, found, ok_bind, shown]

/-- The file for the slug of a title is listed under the slug. -/
theorem listedStory?_fileName (library : Library) (tree : Tree) (title : String)
    (format : StoryFormat) (changed : Files.Time) :
    library.listedStory? tree (.text (fileName title format), changed) =
      some ⟨slug title, library.storyPath title format, format, changed,
        statusOf Report.ofStory
          (library.readStory tree (library.storyPath title format) format)⟩ := by
  have nonempty : slug title ≠ "" := by
    intro empty
    have none := String.toList_eq_nil_iff.mpr empty
    rw [slug, String.toList_ofList] at none
    exact Slug.ofChars_ne_nil title.toList none
  refine listedStory?_eq_some_iff.mpr ⟨⟨nonempty, ?_⟩, ?_, rfl, rfl⟩
  · rw [fileName]
  · rw [Name.pathIn?_text, storyPath_eq]

/-! ## Saved sessions -/

/-- A file is listed when its name is a slot with the one extension. -/
theorem listedSession?_eq_some_iff {entry : SessionEntry} :
    library.listedSession? tree (name, changed) = some entry ↔
      (entry.slot ≠ "" ∧ name = .text (entry.slot ++ "." ++ "json")) ∧
        name.pathIn? library.saves = some entry.path ∧ entry.changed = changed ∧
          entry.status = statusOf Session.summary (library.readSession tree entry.path) := by
  rw [← Name.cut_iff (by decide)]
  constructor
  · intro shown
    rcases Option.bind_eq_some_iff.mp shown with ⟨_, known, rest⟩
    rcases Option.bind_eq_some_iff.mp rest with ⟨slot, isSlot, rest⟩
    rcases Option.bind_eq_some_iff.mp rest with ⟨path, isPath, same⟩
    cases same
    have isSession : name.extension? = some "json" := by
      by_contra other
      rw [guard, if_neg other] at known
      cases known
    exact ⟨⟨isSlot, isSession⟩, isPath, rfl, rfl⟩
  · rintro ⟨⟨isSlot, isSession⟩, isPath, time, status⟩
    rcases entry with ⟨slot, path, shownTime, shownStatus⟩
    dsimp only at isSlot isPath time status
    rw [listedSession?, isSession, isSlot, isPath, time, status]
    rfl

end

end Library

end Gamebook
