import Gamebook.Proofs.Library.Filing
import Gamebook.Proofs.Play.Journal
import Gamebook.Proofs.Session.Run
import Gamebook.Proofs.Settings.Loaded

namespace Gamebook

/-!
# Saved sessions as a map from slugs

A session is saved in the file that is named by the slug of its slot, and the
directories on the way to it are made.  What is saved is loaded again: the session
was played from a story that could be opened and with settings that could be
loaded, so nothing in it is refused by the reader.

The other slots keep what they had, because no other file is written.  But they may
be found where they were not found before.  A path that goes up leads nowhere while
the directory that it goes up from is missing, and a save makes that directory.
-/

namespace Library

open Files (Tree Place Node IsName)

/-! ## The file of a slot -/

/-- The file of a slot has the name that a document for a story with that title would
have. -/
theorem sessionPath_eq (library : Library) (slot : String) :
    library.sessionPath slot = Files.join library.saves (fileName slot .document) := by
  have name : slug slot ++ ".json" = fileName slot .document := by
    rw [fileName, String.append_assoc]
    rfl
  rw [sessionPath, name]

section

variable {library : Library} {tree after : Tree} {slot : String}

/-- Without a file there is nothing to load. -/
theorem loadSession_of_missing
    (missing : ¬ ∃ content changed,
      tree.find (library.sessionPath slot) = .ok (.file content changed)) :
    library.loadSession tree slot = .error (.notFound .session slot) := by
  have isMissing := mt isFile_iff.mp missing
  simp only [loadSession, isMissing, Bool.false_eq_true, if_false]

/-- Loading depends on the file of the slot alone. -/
theorem loadSession_congr (same : Unmoved tree after (library.sessionPath slot)) :
    library.loadSession after slot = library.loadSession tree slot := by
  cases isThere : tree.isFile (library.sessionPath slot) with
  | true =>
    have isThereAfter := same.isFile_iff.mpr isThere
    simp only [loadSession, isThere, isThereAfter, if_true, readSession, same.read isThere]
  | false =>
    have isMissing : after.isFile (library.sessionPath slot) = false := by
      rw [Bool.eq_false_iff, ne_eq, same.isFile_iff, isThere]
      exact Bool.false_ne_true
    simp only [loadSession, isThere, isMissing, Bool.false_eq_true, if_false]

/-- A session is loaded from the file that holds its text. -/
theorem loadSession_of_find {text : String} {changed : Files.Time} {session : Session}
    (found : tree.find (library.sessionPath slot) = .ok (.file (.text text) changed))
    (read : Session.ofJson text = .ok session) : library.loadSession tree slot = .ok session := by
  have isThere := isFile_iff.mpr ⟨.text text, changed, found⟩
  have readText : tree.read (library.sessionPath slot) = .ok text := by
    rw [Tree.read, found]
    rfl
  rw [loadSession, if_pos isThere]
  exact readSession_eq_ok_iff.mpr ⟨text, readText, read⟩

end

/-! ## Saving -/

theorem saveSession_eq_ok_iff {library : Library} {tree after : Tree} {slot path : String}
    {session : Session} :
    library.saveSession tree slot session = .ok (path, after) ↔
      path = library.sessionPath slot ∧
        writeFile tree (library.sessionPath slot) session.toJson = .ok after := by
  rw [saveSession, Tree.settled_eq_ok_iff, savingSession, Tree.andThen_eq_ok_iff, writeFile,
    Tree.leftBy_eq_ok_iff]
  constructor
  · rintro ⟨_, left, written, same⟩
    rcases Prod.mk.inj same with ⟨samePath, sameTree⟩
    rw [sameTree] at written
    exact ⟨(Except.ok.inj samePath).symm, written⟩
  · rintro ⟨isPath, written⟩
    rw [isPath]
    exact ⟨(), after, written, rfl⟩

/-- A save makes the directories and writes the file. -/
theorem saveSession_of_write {library : Library} {tree made after : Tree}
    {slot path above text : String} {session : Session} (named : library.sessionPath slot = path)
    (isAbove : Files.parent? path = some above)
    (makes : tree.makeDirectories (Files.ancestors above) = .ok made)
    (isText : session.toJson = text) (writes : made.write path (.text text) = .ok after) :
    library.saveSession tree slot session = .ok (path, after) := by
  rw [saveSession_eq_ok_iff, named, isText]
  exact ⟨rfl, (writeFile_eq_ok_iff isAbove).mpr ⟨made, makes, writes⟩⟩

theorem fileName_ne {slot other : String} (different : slug other ≠ slug slot) :
    fileName other .document ≠ fileName slot .document := fun same =>
  different (fileName_eq_iff.mp same).1

/-- Where the directory was there, the other slots hold what they held. -/
theorem Filed.loadSession_other {library : Library} {tree after : Tree} {slot text : String}
    {place before : Place}
    (filed : Filed tree after library.saves (fileName slot .document) text place)
    (holds : tree.Holds library.saves before) {other : String}
    (different : slug other ≠ slug slot) :
    library.loadSession after other = library.loadSession tree other := by
  refine loadSession_congr fun content changed => ?_
  rw [sessionPath_eq]
  exact filed.find_other holds (isName_fileName other .document) (fileName_ne different) content
    changed

/-! ## Slots -/

/-- The session that has been played with these choices, from the start of a story. -/
def played (settings : Settings) (player : Player) (story : Story) (keys : List LinkKey) :
    Session :=
  ((Session.start { player, story, goals := settings.goals }).play keys).2

/-- The game that is played is well-formed, and the session is played from it. -/
theorem playedFrom_played {settings : Settings} (playable : settings.Playable)
    {player : Player} (made : settings.player.player = .ok player) {story : Story}
    (wellFormed : story.WellFormed) (keys : List LinkKey) :
    Game.WellFormed { player, story, goals := settings.goals } ∧
      (played settings player story keys).PlayedFrom
        { player, story, goals := settings.goals } := by
  have game : Game.WellFormed { player, story, goals := settings.goals } :=
    ⟨PlayerSettings.valid_of_player made, wellFormed, playable.goals⟩
  have begun := Session.playedFrom_start wellFormed.keyed game.player
  exact ⟨game, Session.playedFrom_play wellFormed begun keys⟩

/-- A session that can be played is read back from its text. -/
theorem ofJson_toJson_played {settings : Settings} (playable : settings.Playable)
    {player : Player} (made : settings.player.player = .ok player) {story : Story}
    (wellFormed : story.WellFormed) (keys : List LinkKey) :
    Session.ofJson (played settings player story keys).toJson =
      .ok (played settings player story keys) := by
  rcases playedFrom_played playable made wellFormed keys with ⟨game, playedFrom⟩
  exact Session.ofJson_toJson game playedFrom

/-- Says that a session has been saved in a slot and that the other slots are as they
were. -/
structure KeptInSlot (library : Library) (tree after : Tree) (slot : String) (session : Session) :
    Prop where
  loaded : ∀ other, slug other = slug slot → library.loadSession after other = .ok session
  /-- What was found in another slot, be it broken or not, is found there again. -/
  kept : ∀ other, slug other ≠ slug slot →
    library.loadSession tree other ≠ .error (.notFound .session other) →
      library.loadSession after other = library.loadSession tree other
  others : Steady tree library.saves → ∀ other, slug other ≠ slug slot →
    library.loadSession after other = library.loadSession tree other
  files : ∃ place, after.locate (library.sessionPath slot) = .ok ⟨place, false⟩ ∧
    ∀ other, other ≠ place → ∀ content changed,
      after.node? other = some (.file content changed) ↔
        tree.node? other = some (.file content changed)
  rooted : after.Rooted

/-- Whatever is in the settings file, and whatever is chosen, a session that could be
saved is loaded from its slot as it was.  The other slots keep what they had, nothing
more is found in them when the path to them is steady, and no other file changes. -/
theorem saveSession_keptInSlot {shelf library : Library} {stories config tree after : Tree}
    {name file slot path : String} {story : Story} {player : Player} (keys : List LinkKey)
    (opened : shelf.openStory stories name = .ok story)
    (made : (Settings.load config file).player.player = .ok player) (rooted : tree.Rooted)
    (saved : library.saveSession tree slot
      (played (Settings.load config file) player story keys) = .ok (path, after)) :
    path = library.sessionPath slot ∧
      library.KeptInSlot tree after slot
        (played (Settings.load config file) player story keys) := by
  have read := ofJson_toJson_played (Settings.playable_load config file) made
    (wellFormed_of_openStory opened) keys
  generalize played (Settings.load config file) player story keys = session at saved read ⊢
  rcases saveSession_eq_ok_iff.mp saved with ⟨rfl, written⟩
  rw [sessionPath_eq] at written
  rcases exists_filed_of_writeFile (isName_fileName slot .document) written with ⟨place, filed⟩
  refine ⟨rfl, ?_, ?_, ?_, ⟨place ++ [.text (fileName slot .document)], ?_, filed.files⟩,
    filed.rooted rooted⟩
  · intro other sameSlug
    have sameFile : library.sessionPath other = library.sessionPath slot := by
      rw [sessionPath, sessionPath, sameSlug]
    rcases filed.here with ⟨changed, here⟩
    have found : after.find (library.sessionPath other) =
        .ok (.file (.text session.toJson) changed) := by
      rw [sameFile, sessionPath_eq, filed.holds.find_join (isName_fileName slot .document)]
      exact ⟨filed.short, here⟩
    exact loadSession_of_find found read
  · intro other different there
    rcases Classical.not_not.mp (mt loadSession_of_missing there) with ⟨content, changed, found⟩
    rw [sessionPath_eq] at found
    rcases bind_eq_ok_iff.mp found with ⟨target, located, -⟩
    rcases Tree.exists_holds_of_locate_join (isName_fileName other .document) located with
      ⟨before, holds⟩
    exact filed.loadSession_other holds different
  · intro steady other different
    by_cases before : ∃ before, tree.Holds library.saves before
    · rcases before with ⟨before, holds⟩
      exact filed.loadSession_other holds different
    · have nowhere : ∀ before, ¬ tree.Holds library.saves before := not_exists.mp before
      refine loadSession_congr fun content changed => ?_
      rw [sessionPath_eq]
      exact iff_of_false
        (filed.not_find_other rooted steady nowhere (isName_fileName other .document)
          (fileName_ne different) content changed)
        (Tree.find_join_of_not_holds nowhere (isName_fileName other .document))
  · rw [sessionPath_eq, filed.holds.locate_join (isName_fileName slot .document),
      if_neg (Nat.not_lt.mpr filed.short)]

/-! ## A library by the sea -/

/-- A story with a climb that costs something and that can be made only once. -/
def cove : Story where
  title := "The cove"
  opening :=
    ⟨"Beach", "Sand.", .calm, false, [⟨⟨"Climb", "Hill"⟩, [.change .health (-10), .take "shell"]⟩]⟩
  filed := Story.filing [⟨"Hill", "Wind.", .none, true, [⟨⟨"Descend", "Beach"⟩, []⟩]⟩]

theorem wellFormed_cove : cove.WellFormed := by
  decide

/-- A library in a directory of its own, with this path to its saved sessions. -/
abbrev coast (saves : String) : Library := .within "data" "stories" saves .silent

/-- The files of the library: the text of a story, and a session that was saved
earlier. -/
def coastFiles (story old : String) : Tree where
  entries :=
    [(["data"], .directory), (["data", "saves"], .directory),
      (["data", "saves", "old.json"], .file (.text old) ⟨0, 0⟩),
      (["data", "stories"], .directory),
      (["data", "stories", "cove.json"], .file (.text story) ⟨0, 0⟩)]
  turn := 0

theorem rooted_coastFiles (story old : String) : (coastFiles story old).Rooted := by
  apply Tree.rooted_of_entries
  simp only [coastFiles, List.forall_mem_cons]
  exact ⟨⟨[], "data", rfl, rfl, by decide⟩, ⟨["data"], "saves", rfl, rfl, by decide⟩,
    ⟨["data", "saves"], "old.json", rfl, rfl, by decide⟩,
    ⟨["data"], "stories", rfl, rfl, by decide⟩,
    ⟨["data", "stories"], "cove.json", rfl, rfl, by decide⟩, List.forall_mem_nil _⟩

theorem openStory_coast (saves old : String) :
    (coast saves).openStory (coastFiles (StoryFormat.document.write cove) old)
      "cove" = .ok cove := by
  generalize isText : StoryFormat.document.write cove = text
  have document : (coast saves).storyPath "cove" .document = "data/stories/cove.json" :=
    (by decide : (coast "saves").storyPath "cove" .document = "data/stories/cove.json")
  have script : (coast saves).storyPath "cove" .script = "data/stories/cove.paths" :=
    (by decide : (coast "saves").storyPath "cove" .script = "data/stories/cove.paths")
  have noScript : (coastFiles text old).isFile "data/stories/cove.paths" = false := rfl
  have isThere : (coastFiles text old).isFile "data/stories/cove.json" = true := rfl
  have read : (coastFiles text old).read "data/stories/cove.json" = .ok text := rfl
  have found : (StoryFormat.all.find? fun format =>
      (coastFiles text old).isFile ((coast saves).storyPath "cove" format)) =
        some .document := by
    rw [StoryFormat.all, List.find?_cons, script, noScript, List.find?_cons, document, isThere]
  rw [← document, ← isText] at read
  unfold openStory
  rw [found, ← isText]
  exact readStory_of_read wellFormed_cove read

/-- The settings that stand for a file that is missing. -/
abbrev unset : Settings := Settings.load Tree.empty "paths.toml"

/-- The player of the settings that stand for a missing file. -/
def wanderer : Player := ⟨"Wanderer", 100, 0, 0, []⟩

theorem player_unset : unset.player.player = .ok wanderer := rfl

/-- The game of the cove after these choices. -/
abbrev walk (keys : List LinkKey) : Session := played unset wanderer cove keys

theorem ofJson_toJson_walk (keys : List LinkKey) :
    Session.ofJson (walk keys).toJson = .ok (walk keys) :=
  ofJson_toJson_played (Settings.playable_load Tree.empty "paths.toml") player_unset
    wellFormed_cove keys

/-- The files with the text of a fresh session beside the old one. -/
def landed (tree : Tree) (fresh : String) : Tree :=
  { tree with turn := 1 }.put ["data", "saves", "fresh.json"] (.file (.text fresh) ⟨0, 1⟩)

theorem saveSession_coast (story old : String) (session : Session) :
    (coast "saves").saveSession (coastFiles story old) "fresh" session =
      .ok ("data/saves/fresh.json", landed (coastFiles story old) session.toJson) := by
  generalize isText : session.toJson = text
  have path : (coast "saves").sessionPath "fresh" = "data/saves/fresh.json" := by decide
  have above : Files.parent? "data/saves/fresh.json" = some "data/saves" := by decide
  have paths : Files.ancestors "data/saves" = ["data/saves", "data", ""] := by decide
  have made : (coastFiles story old).makeDirectories ["data/saves", "data", ""] =
      .ok (coastFiles story old) := rfl
  have written : (coastFiles story old).write "data/saves/fresh.json" (.text text) =
      .ok (landed (coastFiles story old) text) := rfl
  exact saveSession_of_write path above (paths ▸ made) isText written

/-- A game is saved on the hill, and the old session can still be loaded. -/
theorem saveSession_keptInSlot_coast :
    let story := StoryFormat.document.write cove
    let climbed := walk [⟨"Climb", "Hill"⟩]
    let tree := coastFiles story (walk []).toJson
    let after := landed tree climbed.toJson
    (coast "saves").openStory tree "cove" = .ok cove ∧
      unset.player.player = .ok wanderer ∧ tree.Rooted ∧
      (coast "saves").saveSession tree "fresh" climbed = .ok ("data/saves/fresh.json", after) ∧
      Steady tree (coast "saves").saves ∧
      "data/saves/fresh.json" = (coast "saves").sessionPath "fresh" ∧
      (coast "saves").KeptInSlot tree after "fresh" climbed :=
  ⟨openStory_coast _ _, player_unset, rooted_coastFiles _ _, saveSession_coast _ _ _,
    .inr (by decide),
    saveSession_keptInSlot [⟨"Climb", "Hill"⟩] (openStory_coast "saves" (walk []).toJson)
      player_unset (rooted_coastFiles _ _) (saveSession_coast _ _ _)⟩

/-! ## A path that goes up -/

/-- The directory that is missing on the way is made, and the session is written
beside the old one. -/
theorem saveSession_detour (story old : String) (session : Session) :
    (coast "new/../saves").saveSession (coastFiles story old) "fresh" session =
      .ok ("data/new/../saves/fresh.json",
        landed ((coastFiles story old).put ["data", "new"] .directory) session.toJson) := by
  generalize isText : session.toJson = text
  have path : (coast "new/../saves").sessionPath "fresh" = "data/new/../saves/fresh.json" := by
    decide
  have above : Files.parent? "data/new/../saves/fresh.json" = some "data/new/../saves" := by decide
  have paths : Files.ancestors "data/new/../saves" =
      ["data/new/../saves", "data/new/..", "data/new", "data", ""] := by decide
  have made : (coastFiles story old).makeDirectories
      ["data/new/../saves", "data/new/..", "data/new", "data", ""] =
        .ok ((coastFiles story old).put ["data", "new"] .directory) := rfl
  have written : ((coastFiles story old).put ["data", "new"] .directory).write
      "data/new/../saves/fresh.json" (.text text) =
        .ok (landed ((coastFiles story old).put ["data", "new"] .directory) text) := rfl
  exact saveSession_of_write path above (paths ▸ made) isText written

/-- Before the save the old slot is not found, because the path to it goes through
what is missing. -/
theorem loadSession_detour_before (story old : String) :
    (coast "new/../saves").loadSession (coastFiles story old) "old" =
      .error (.notFound .session "old") := by
  have isMissing : (coastFiles story old).isFile ((coast "new/../saves").sessionPath "old") =
      false := rfl
  simp only [loadSession, isMissing, Bool.false_eq_true, if_false]

/-- After the save it is found. -/
theorem loadSession_detour_after {session : Session} {old : String}
    (read : Session.ofJson old = .ok session) (story fresh : String) :
    (coast "new/../saves").loadSession
      (landed ((coastFiles story old).put ["data", "new"] .directory) fresh) "old" =
        .ok session := by
  have path : (coast "new/../saves").sessionPath "old" = "data/new/../saves/old.json" := by decide
  have found : (landed ((coastFiles story old).put ["data", "new"] .directory) fresh).find
      "data/new/../saves/old.json" = .ok (.file (.text old) ⟨0, 0⟩) := rfl
  exact loadSession_of_find (path ▸ found) read

/-- The other slots need not be as they were when the path to the saved sessions
goes up: a session that could not be found is found after the save. -/
theorem exists_slot_changed :
    ¬ ∀ (shelf library : Library) (stories config tree after : Tree)
      (name file slot path : String) (story : Story) (player : Player) (keys : List LinkKey),
      shelf.openStory stories name = .ok story →
      (Settings.load config file).player.player = .ok player → tree.Rooted →
      library.saveSession tree slot (played (Settings.load config file) player story keys) =
        .ok (path, after) →
      ∀ other, slug other ≠ slug slot →
        library.loadSession after other = library.loadSession tree other := by
  intro unchanged
  let story := StoryFormat.document.write cove
  let old := (walk []).toJson
  have same := unchanged (coast "new/../saves") (coast "new/../saves")
    (coastFiles story old) Tree.empty (coastFiles story old)
    (landed ((coastFiles story old).put ["data", "new"] .directory) old)
    "cove" "paths.toml" "fresh" "data/new/../saves/fresh.json" cove wanderer []
    (openStory_coast _ _) player_unset (rooted_coastFiles _ _) (saveSession_detour _ _ _)
    "old" (by decide)
  rw [loadSession_detour_before, loadSession_detour_after (ofJson_toJson_walk [])] at same
  cases same

end Library
end Gamebook
