import Gamebook.Proofs.Library.Saving
import Gamebook.Proofs.Library.Shelf

namespace Gamebook

/-!
# Opening what is listed

The listing shows the files of a directory under their stems, and a story is opened by
the slug of a name.  So the two speak of the same files only where a stem is a slug.
There the listing tells all that opening needs to know: whether the directory has a file
for a name, and in which form.

Whatever is in the directory, nothing is asked of the texts of the files.  A script and a
document may share a stem, and then both are listed under one name.  The name opens the
script, because a script is looked for first.
-/

/-- What a directory may have in it: each name once, and only texts that can be given to
files as names.  Of names that are not text nothing is asked. -/
structure Files.IsContents (children : List (Files.Name × Files.Node)) : Prop where
  distinct : (children.map Prod.fst).Nodup
  names : ∀ (name : String) node, (.text name, node) ∈ children → Files.IsName name
  short : ∀ (name : String) node, (.text name, node) ∈ children →
    Text.byteLength name.toList ≤ Files.Tree.longestName

namespace Library

open Files (Tree Place Node Name IsContents)

/-- Says that no entry with the same name is of a form that is looked for earlier. -/
def IsFirst (entries : List StoryEntry) (entry : StoryEntry) : Prop :=
  ∀ other ∈ entries, other.name = entry.name → IsNoLater entry.format other.format

/-- Some entry under each name is the first. -/
theorem exists_isFirst {entries : List StoryEntry} {entry : StoryEntry} (member : entry ∈ entries) :
    ∃ first ∈ entries, first.name = entry.name ∧ IsFirst entries first := by
  by_cases isScript : ∃ other ∈ entries, other.name = entry.name ∧ other.format = .script
  · rcases isScript with ⟨other, listed, sameName, isScript⟩
    refine ⟨other, listed, sameName, ?_⟩
    intro third _ _
    rw [isScript]
    exact isNoLater_script third.format
  · refine ⟨entry, member, rfl, ?_⟩
    intro other listed sameName
    have isDocument : other.format = .document := by
      cases form : other.format with
      | document => rfl
      | script => exact absurd ⟨other, listed, sameName, form⟩ isScript
    rw [isDocument]
    exact isNoLater_document entry.format

/-- Says that these are the entries for the files at a place. -/
structure IsListing (library : Library) (tree : Tree) (place : Place)
    (entries : List StoryEntry) : Prop where
  leads : tree.LeadsTo library.stories place
  contents : IsContents (tree.children place)
  listed : library.listStories tree = .ok entries

/-- Says that an entry tells of a file in the directory of the stories. -/
structure TellsOf (library : Library) (tree : Tree) (child : Name × Node)
    (entry : StoryEntry) : Prop where
  isFile : ∃ content, child = (.text (entry.name ++ "." ++ entry.format.extension),
    .file content entry.changed)
  path : child.1.pathIn? library.stories = some entry.path
  status :
    entry.status = statusOf Report.ofStory (library.readStory tree entry.path entry.format)

section

-- Files are compared by `fileName_eq_iff`, and never by running the slugs.
attribute [local irreducible] storyPath fileName

variable {library : Library} {tree : Tree} {entries : List StoryEntry} {entry : StoryEntry}
  {place : Place} {name : String} {format : StoryFormat}

/-! ## What is listed -/

/-- A directory with something listed in it is there. -/
theorem exists_isListing (contents : ∀ children, tree.list library.stories = .ok children →
      IsContents children)
    (listed : library.listStories tree = .ok entries) (member : entry ∈ entries) :
    ∃ place, library.IsListing tree place entries := by
  rcases bind_eq_ok_iff.mp listed with ⟨files, found, same⟩
  rw [filesOf] at found
  split at found
  · rcases bind_eq_ok_iff.mp found with ⟨names, accessed, -⟩
    rcases Tree.exists_leadsTo_of_list (accessing_eq_ok_iff.mp accessed) with ⟨place, leads, -⟩
    exact ⟨place, leads, contents _ leads.list, listed⟩
  · cases found
    cases same
    rw [List.mem_mergeSort] at member
    cases member

/-- A directory that is there can be listed. -/
theorem exists_listing (leads : tree.LeadsTo library.stories place)
    (contents : IsContents (tree.children place)) :
    ∃ entries, library.IsListing tree place entries :=
  ⟨_, leads, contents, listStories_eq leads⟩

theorem mem_iff_of_listed (leads : tree.LeadsTo library.stories place)
    (listed : library.listStories tree = .ok entries) :
    entry ∈ entries ↔
      ∃ child ∈ tree.children place, entryOf? (library.listedStory? tree) child = some entry := by
  rw [listStories_eq leads] at listed
  cases listed
  rw [List.mem_mergeSort, List.mem_filterMap]

/-- The name of a file is cut into the name and the form of its entry. -/
theorem tellsOf_of_entryOf? {child : Name × Node}
    (shown : entryOf? (library.listedStory? tree) child = some entry) :
    library.TellsOf tree child entry := by
  rcases child with ⟨name, _ | ⟨content, changed⟩⟩
  · cases shown
  · rcases listedStory?_eq_some_iff.mp shown with ⟨⟨-, whole⟩, path, rfl, status⟩
    exact ⟨⟨content, Prod.ext whole rfl⟩, path, status⟩

namespace IsListing

theorem exists_child (listing : library.IsListing tree place entries) (member : entry ∈ entries) :
    ∃ child ∈ tree.children place, library.TellsOf tree child entry := by
  rcases (mem_iff_of_listed listing.leads listing.listed).mp member with ⟨child, isChild, shown⟩
  exact ⟨child, isChild, tellsOf_of_entryOf? shown⟩

theorem status (listing : library.IsListing tree place entries) (member : entry ∈ entries) :
    entry.status =
      statusOf Report.ofStory (library.readStory tree entry.path entry.format) := by
  rcases listing.exists_child member with ⟨child, -, tells⟩
  exact tells.status

/-- An entry under a slug has the path at which a name with this slug is looked for. -/
theorem path (listing : library.IsListing tree place entries) (member : entry ∈ entries)
    (isSlug : entry.name = slug name) : entry.path = library.storyPath name entry.format := by
  rcases listing.exists_child member with ⟨child, -, tells⟩
  rcases tells.isFile with ⟨content, rfl⟩
  rw [← Option.some_inj, ← tells.path, Name.pathIn?_text, isSlug, storyPath_eq, fileName]

/-- There is a file for a name when an entry is listed under the slug of the name. -/
theorem isFile_iff (listing : library.IsListing tree place entries) :
    tree.isFile (library.storyPath name format) = true ↔
      ∃ entry ∈ entries, entry.name = slug name ∧ entry.format = format := by
  rw [storyPath_eq, listing.leads.isFile_join listing.contents.distinct
    (isName_fileName name format)]
  constructor
  · rintro ⟨-, content, changed, isChild⟩
    have shown := listedStory?_fileName library tree name format changed
    have member := (mem_iff_of_listed listing.leads listing.listed).mpr ⟨_, isChild, shown⟩
    exact ⟨_, member, rfl, rfl⟩
  · rintro ⟨entry, member, isSlug, rfl⟩
    rcases listing.exists_child member with ⟨child, isChild, tells⟩
    rcases tells.isFile with ⟨content, rfl⟩
    have short := listing.contents.short _ _ isChild
    rw [isSlug] at isChild short
    rw [fileName]
    exact ⟨short, content, entry.changed, isChild⟩

/-! ## Opening -/

/-- The first entry under the slug of a name is opened by the name. -/
theorem openStory (listing : library.IsListing tree place entries) (member : entry ∈ entries)
    (first : IsFirst entries entry) (isSlug : entry.name = slug name) :
    library.openStory tree name = library.readStory tree entry.path entry.format := by
  rw [listing.path member isSlug]
  apply openStory_of_first
  · exact listing.isFile_iff.mpr ⟨entry, member, isSlug, rfl⟩
  · intro form isForm
    rcases listing.isFile_iff.mp isForm with ⟨other, otherListed, otherSlug, rfl⟩
    exact first other otherListed (otherSlug.trans isSlug.symm)

end IsListing

theorem statusOf_eq_ready_iff {α β : Type} {f : α → β} {result : Except LibraryError α}
    {shown : β} :
    statusOf f result = .ready shown ↔ ∃ value, result = .ok value ∧ shown = f value := by
  cases result with
  | ok value =>
    rw [statusOf, Status.ready.injEq, eq_comm]
    constructor
    · intro same
      exact ⟨value, rfl, same⟩
    · intro read
      rcases read with ⟨found, isFound, same⟩
      cases isFound
      exact same
  | error error =>
    apply iff_of_false
    · intro isReady
      cases isReady
    · intro read
      rcases read with ⟨value, isOk, -⟩
      cases isOk

end

/-- Of the entries that are listed under a slug, the name opens the first, which is the
script if there is one.  When the first is shown as ready, the name opens the story at its
path, on which it reports. -/
theorem openStory_of_listed {library : Library} {tree : Tree} {entries : List StoryEntry}
    (contents : ∀ children, tree.list library.stories = .ok children → IsContents children)
    (listed : library.listStories tree = .ok entries) :
    ∀ entry ∈ entries, slug entry.name = entry.name →
      (∃ first ∈ entries, first.name = entry.name ∧ IsFirst entries first) ∧
      (IsFirst entries entry →
        library.openStory tree entry.name = library.readStory tree entry.path entry.format ∧
          ∀ report, entry.status = .ready report → ∃ story,
            library.openStory tree entry.name = .ok story ∧
              library.readStory tree entry.path entry.format = .ok story ∧
                report = Report.ofStory story) := by
  intro entry member isSlug
  rcases exists_isListing contents listed member with ⟨place, listing⟩
  refine ⟨exists_isFirst member, ?_⟩
  intro first
  have opened := listing.openStory member first isSlug.symm
  refine ⟨opened, ?_⟩
  intro report ready
  rw [listing.status member] at ready
  rcases statusOf_eq_ready_iff.mp ready with ⟨story, read, reports⟩
  exact ⟨story, opened.trans read, read, reports⟩

/-- The files of the library, with a script and a document of one stem. -/
def tides (text : StoryFormat → String) : Tree where
  entries :=
    [(["data"], .directory), (["data", "stories"], .directory),
      (["data", "stories", "tide.json"], .file (.text (text .document)) ⟨0, 0⟩),
      (["data", "stories", "tide.paths"], .file (.text (text .script)) ⟨0, 0⟩)]
  turn := 0

section

variable (text : StoryFormat → String)

theorem leadsTo_tides : (tides text).LeadsTo (strand "stories").stories ["data", "stories"] :=
  ⟨rfl, rfl⟩

theorem isContents_tides : IsContents ((tides text).children ["data", "stories"]) := by
  have names : ((tides text).children ["data", "stories"]).map Prod.fst =
      [.text (fileName "tide" .document), .text (fileName "tide" .script)] := rfl
  have named (name : String) (node : Node)
      (member : (.text name, node) ∈ (tides text).children ["data", "stories"]) :
      name = fileName "tide" .document ∨ name = fileName "tide" .script := by
    have listed := List.mem_map_of_mem (f := Prod.fst) member
    rw [names] at listed
    simpa using listed
  refine ⟨?_, ?_, ?_⟩
  · rw [names]
    decide
  · intro name node member
    rcases named name node member with rfl | rfl <;> exact isName_fileName _ _
  · intro name node member
    rcases named name node member with rfl | rfl <;> decide

theorem exists_isListing_tides :
    ∃ entries, (strand "stories").IsListing (tides text) ["data", "stories"] entries :=
  exists_listing (leadsTo_tides text) (isContents_tides text)

theorem read_tides (format : StoryFormat) :
    (tides text).read ((strand "stories").storyPath "tide" format) = .ok (text format) := by
  cases format <;> rfl

theorem isFile_tides (format : StoryFormat) :
    (tides text).isFile ((strand "stories").storyPath "tide" format) = true :=
  isFile_of_read (read_tides text format)

/-- A story in one of the files is listed as ready. -/
theorem exists_entry_tides {text : StoryFormat → String} {entries : List StoryEntry}
    (listing : (strand "stories").IsListing (tides text) ["data", "stories"] entries)
    {format : StoryFormat} {story : Story} (wellFormed : story.WellFormed)
    (holds : text format = format.write story) :
    ∃ entry ∈ entries, entry.name = "tide" ∧ entry.format = format ∧
      (strand "stories").readStory (tides text) entry.path entry.format = .ok story ∧
        entry.status = .ready (Report.ofStory story) := by
  have isSlug : slug "tide" = "tide" := by decide
  rcases listing.isFile_iff.mp (isFile_tides text format) with ⟨entry, member, name, rfl⟩
  have read : (strand "stories").readStory (tides text) entry.path entry.format = .ok story := by
    rw [listing.path member name]
    apply readStory_of_read wellFormed
    rw [read_tides, holds]
  have status := listing.status member
  rw [read] at status
  exact ⟨entry, member, name.trans isSlug, rfl, read, status⟩

end

def dryTide : Story := ⟨"Tide", ⟨"Shore", "Dry sand.", .none, false, []⟩, []⟩

/-- At low tide by the script, and at high tide by the document. -/
def bothTides : StoryFormat → String
  | .script => StoryFormat.script.write dryTide
  | .document => StoryFormat.document.write tide

/-- The name of both files opens the script. -/
theorem openStory_of_listed_bothTides :
    ∃ entries, (strand "stories").listStories (tides bothTides) = .ok entries ∧
      ∃ entry ∈ entries, slug entry.name = entry.name ∧ IsFirst entries entry ∧
        (strand "stories").openStory (tides bothTides) entry.name = .ok dryTide := by
  rcases exists_isListing_tides bothTides with ⟨entries, listing⟩
  have contents : ∀ children, (tides bothTides).list (strand "stories").stories = .ok children →
      IsContents children := by
    intro children list
    rw [listing.leads.list] at list
    cases list
    exact listing.contents
  have wellFormed : dryTide.WellFormed := by decide
  have script : bothTides .script = StoryFormat.script.write dryTide := rfl
  rcases exists_entry_tides listing wellFormed script with
    ⟨entry, member, name, isScript, read, -⟩
  have isSlug : slug entry.name = entry.name := by
    rw [name]
    decide
  have first : IsFirst entries entry := by
    intro other _ _
    rw [isScript]
    exact isNoLater_script other.format
  have opened := (openStory_of_listed contents listing.listed entry member isSlug).2 first
  exact ⟨entries, listing.listed, entry, member, isSlug, first, opened.1.trans read⟩

/-! ## Names that do not open what they are listed for -/

/-- Says that each story that is shown as ready is opened by its name. -/
def OpensListed (library : Library) (tree : Tree) : Prop :=
  ∀ entries, library.listStories tree = .ok entries → ∀ entry ∈ entries, ∀ report,
    entry.status = .ready report → ∃ story,
      library.openStory tree entry.name = .ok story ∧
        library.readStory tree entry.path entry.format = .ok story

/-- A document beside an empty file, which is no script. -/
def fog : StoryFormat → String
  | .script => ""
  | .document => StoryFormat.document.write tide

/-- The script is looked for first, although it cannot be read. -/
theorem not_opensListed_fog : ¬ (strand "stories").OpensListed (tides fog) := by
  intro opens
  rcases exists_isListing_tides fog with ⟨entries, listing⟩
  have wellFormed : tide.WellFormed := by decide
  have document : fog .document = StoryFormat.document.write tide := rfl
  rcases exists_entry_tides listing wellFormed document with
    ⟨entry, member, name, -, -, ready⟩
  rcases opens entries listing.listed entry member _ ready with ⟨story, opened, -⟩
  have noScript : (strand "stories").readStory (tides fog)
      ((strand "stories").storyPath "tide" .script) .script =
      .error (.script ((strand "stories").storyPath "tide" .script) ⟨1, .missingTitle⟩) := by
    rw [readStory, readScript, read_tides]
    rfl
  have tried : (strand "stories").openStory (tides fog) "tide" =
      (strand "stories").readStory (tides fog) ((strand "stories").storyPath "tide" .script)
        .script := by
    apply openStory_of_first (isFile_tides fog .script)
    intro form _
    exact isNoLater_script form
  rw [name, tried, noScript] at opened
  cases opened

/-- The files of the library, with a script of which the stem is no slug. -/
def oldTide : Tree :=
  strandFiles "Old Tide.paths" (.file (.text (StoryFormat.script.write dryTide)) ⟨0, 0⟩)

/-- The slug of the stem is not the stem, and under the slug there is nothing. -/
theorem not_opensListed_oldTide : ¬ (strand "stories").OpensListed oldTide := by
  intro opens
  have leads : oldTide.LeadsTo (strand "stories").stories ["data", "stories"] := ⟨rfl, rfl⟩
  have read : (strand "stories").readStory oldTide "data/stories/Old Tide.paths" .script =
      .ok dryTide := by
    apply readStory_of_read (by decide)
    unfold oldTide
    generalize StoryFormat.script.write dryTide = script
    rfl
  have listed := listStories_eq leads
  have member : StoryEntry.mk "Old Tide" "data/stories/Old Tide.paths" .script ⟨0, 0⟩
      (statusOf Report.ofStory
        ((strand "stories").readStory oldTide "data/stories/Old Tide.paths" .script)) ∈ _ :=
    (mem_iff_of_listed leads listed).mpr ⟨_, List.mem_cons_self, rfl⟩
  rw [read, statusOf] at member
  rcases opens _ listed _ member _ rfl with ⟨story, opened, -⟩
  have missing : (strand "stories").openStory oldTide "Old Tide" =
      .error (.notFound .story "Old Tide") := rfl
  rw [missing] at opened
  cases opened

/-- A story that is listed as ready need not be opened by its name: a file of another form may
have the same stem, and a stem need not be a slug. -/
theorem exists_listed_unopened :
    ¬ (strand "stories").OpensListed (tides fog) ∧ ¬ (strand "stories").OpensListed oldTide :=
  ⟨not_opensListed_fog, not_opensListed_oldTide⟩

end Library

end Gamebook
