import Mathlib.Data.List.Nodup
import Gamebook.Play.Transcript
import Gamebook.Proofs.Library.Reading
import Gamebook.Proofs.Session.Choice

namespace Gamebook

/-!
# The numbers that are shown

A passage is printed with its links numbered from one, and a number picks a link.
The links are numbered when the passage is printed, and they are counted again
when the number comes.  In between, other commands have been obeyed, some of which
failed and some of which printed other things.

A journal of the evening keeps what each command has printed and, where that was a
passage, whose passage it was.  The session whose passage was printed last is the
one in progress, after any lines that the player types.  So a number means what it
meant on the screen.
-/

/-! ## Sessions that can be at a table -/

namespace Session

/-- What holds of every session at a table: it stands, and its story is
well-formed. -/
structure Seated (session : Session) : Prop where
  standing : session.Standing
  story : session.story.WellFormed

/-- The link that is offered under a number.  Numbers start at one. -/
def numbered? (session : Session) (number : Nat) : Option Link :=
  if number = 0 then none else session.offered[number - 1]?

theorem numbered?_eq_none_iff {session : Session} {number : Nat} :
    session.numbered? number = none ↔ number = 0 ∨ session.offered.length < number := by
  unfold numbered?
  split
  · next zero => exact iff_of_true rfl (.inl zero)
  · next positive =>
    rw [List.getElem?_eq_none_iff, or_iff_right positive]
    omega

theorem mem_offered_of_numbered? {session : Session} {number : Nat} {link : Link}
    (numbered : session.numbered? number = some link) : link ∈ session.offered := by
  unfold numbered? at numbered
  split at numbered
  · cases numbered
  · exact List.mem_of_getElem? numbered

/-- Choosing a link that is offered executes the actions of that link, and no
other's. -/
theorem choose_of_mem_offered {session : Session} (seated : session.Seated) {link : Link}
    (offered : link ∈ session.offered) :
    (∃ violation, Action.executeAll link.actions session.player = .error violation ∧
        session.choose link.key = (.error (.rejected violation), session)) ∨
      ∃ player target, Action.executeAll link.actions session.player = .ok player ∧
        session.choose link.key = (.ok target, session.moved link player) ∧
          (session.moved link player).Seated := by
  rcases Option.isSome_iff_exists.mp seated.standing.current with ⟨passage, stands⟩
  rcases (mem_offered_iff seated.standing stands).mp offered with ⟨onPassage, free⟩
  have next := standing_choose seated.standing link.key
  rcases choose_cases seated.standing stands link.key with ⟨-, none⟩ |
    ⟨other, target, found, -, leads, outcome⟩
  · exact absurd ⟨link, onPassage, rfl, free⟩ none
  · -- The keys of a passage are distinct, so the link that is found is this one.
    rcases Passage.mem_of_link? found with ⟨otherOnPassage, sameKey⟩
    have inStory := (Story.mem_of_find? seated.standing.keyed stands).1
    have distinct := (seated.story.passages passage inStory).keys
    have same : other = link := List.inj_on_of_nodup_map distinct otherOnPassage onPassage sameKey
    rw [same] at outcome leads
    rcases outcome with ⟨violation, refused, failed⟩ | ⟨player, chosen, executed⟩
    · exact .inl ⟨violation, failed, refused⟩
    · rw [chosen] at next
      exact .inr ⟨player, target, executed, chosen, next, seated.story⟩

end Session

namespace Play

/-! ## Pages -/

/-- A printed passage: what stands above the choices, and the choices with their
numbers. -/
structure Page where
  above : Screen
  choices : List (Nat × String)
  deriving DecidableEq, Repr

namespace Page

/-- The line of a choice. -/
def line (choice : Nat × String) : String :=
  "  " ++ Text.decimal choice.1 ++ ") " ++ choice.2

def screen (page : Page) : Screen := page.above ++ page.choices.map line

end Page

/-- The page that shows where a session stands. -/
def View.page (view : View) (session : Session) : Page where
  above :=
    [view.paint .passageTitle session.passage.title, view.content session.passage] ++
      if session.isFinished then ["\n" ++ view.paint .storyTitle "THE END"] ++ view.goals session
      else if session.offered.isEmpty then view.denial "Every way onward is closed." else []
  choices :=
    if session.isFinished then []
    else session.offered.zipIdx.map fun (link, index) => (index + 1, view.paint .link link.text)

/-- A passage is printed as its page. -/
theorem View.passage_eq_screen (view : View) (session : Session) :
    view.passage session = (view.page session).screen := by
  unfold View.passage View.page Page.screen
  split
  · rw [List.map_nil, List.append_nil]
  · rw [List.map_map, List.append_assoc]
    rfl

/-- The choices of a page are the links that are offered, in their order.  A passage
that ends the story offers none. -/
theorem View.choices_page (view : View) (session : Session) :
    (view.page session).choices =
      session.offered.zipIdx.map fun (link, index) => (index + 1, view.paint .link link.text) := by
  unfold View.page
  split
  · next finished =>
    have noLinks : session.passage.links = [] := List.isEmpty_iff.mp finished
    rw [Session.offered, Story.offered, noLinks]
    rfl
  · rfl

/-- What a screen is, and the session whose passage it shows, if it shows one. -/
inductive Printed (view : View) : Screen → Option Session → Prop
  | passage (session : Session) : Printed view (view.page session).screen (some session)
  | arrival (session : Session) :
    Printed view
      (("\n" ++ view.paint .storyTitle session.story.title ++ "\n") :: (view.page session).screen)
      (some session)
  | failure (message : String) : Printed view (view.failure message) none
  | denial (message : String) : Printed view (view.denial message) none
  | status (session : Session) : Printed view (view.status session) none
  | goals (session : Session) : Printed view (view.goals session) none
  | stories (library : Library) (tree : Files.Tree) : Printed view (view.stories library tree) none
  | saves (library : Library) (tree : Files.Tree) : Printed view (view.saves library tree) none
  | saved (path : String) : Printed view ["Saved to " ++ path ++ "."] none
  | help : Printed view view.help none
  | nothing : Printed view [] none

namespace Table

/-! ## One command -/

/-- The session that a story is started with. -/
def started? (table : Table) (name : String) : Option Session :=
  match table.library.openStory table.tree name, table.settings.player.player with
  | .ok story, .ok player => some (Session.start ⟨player, story, table.settings.goals⟩)
  | _, _ => none

/-- The session to which a number leads, unless the choice is refused. -/
def chosen? (table : Table) (number : Nat) : Option Session := do
  let session ← table.session
  let link ← session.numbered? number
  match session.choose link.key with
  | (.ok _, next) => some next
  | (.error _, _) => none

/-- The session whose passage a command shows. -/
def shown? (table : Table) : Command → Option Session
  | .choose number => table.chosen? number
  | .look => table.session
  | .play name => table.started? name
  | .load slot => (table.library.loadSession table.tree slot).toOption
  | .status | .goals | .list | .save _ | .saves | .help | .quit | .unknown _ => none

/-- What holds of every table: a session in progress may be at it. -/
def Ready (table : Table) : Prop := ∀ session, table.session = some session → session.Seated

variable {table : Table} {session : Session} {number : Nat} {link : Link}

/-- A number that no link has is refused. -/
theorem obey_choose_of_none (inProgress : table.session = some session)
    (noLink : session.numbered? number = none) :
    table.obey (.choose number) =
      (table.view.denial ("There is no choice " ++ Text.decimal number ++ "."), table) := by
  rw [Session.numbered?] at noLink
  rw [obey, choose, inProgress]
  simp only [noLink]

/-- The number of a link leads where the link leads, unless its actions are
forbidden. -/
theorem obey_choose_of_some (ready : table.Ready) (inProgress : table.session = some session)
    (numbered : session.numbered? number = some link) :
    table.obey (.choose number) =
      match Action.executeAll link.actions session.player with
      | .error violation => (table.view.failure (ChoiceError.rejected violation).message, table)
      | .ok player =>
        (table.view.passage (session.moved link player),
          { table with session := some (session.moved link player) }) := by
  have same : { table with session := some session } = table := by rw [← inProgress]
  rw [Session.numbered?] at numbered
  rw [obey, choose, inProgress]
  simp only [numbered]
  rcases Session.choose_of_mem_offered (ready session inProgress)
      (Session.mem_offered_of_numbered? numbered) with
    ⟨violation, failed, refused⟩ | ⟨player, target, executed, chosen, -⟩
  · rw [refused, failed]
    simp only [same]
  · rw [chosen, executed]

/-- All that matters here of what a command does: which passage is printed, and that
its session, if it is another one, takes the place of the session in progress. -/
structure Step (table : Table) (command : Command) : Prop where
  printed : Printed table.view (table.obey command).1 (table.shown? command)
  session : (table.obey command).2.session = (table.shown? command).or table.session
  view : (table.obey command).2.view = table.view
  seated : ∀ session, table.shown? command = some session → session.Seated

/-- A command that prints no passage leaves the game in progress alone. -/
theorem Step.aside {command : Command} {screen : Screen} (after : Table)
    (shown : table.shown? command = none) (obeyed : table.obey command = (screen, after))
    (printed : Printed table.view screen none) (sameSession : after.session = table.session)
    (sameView : after.view = table.view) : table.Step command where
  printed := by rw [shown, obeyed]; exact printed
  session := by rw [shown, obeyed]; exact sameSession
  view := by rw [obeyed]; exact sameView
  seated := by rw [shown]; exact nofun

/-- A command that prints a passage leaves its session in progress. -/
theorem Step.shows {command : Command} {screen : Screen}
    (shown : table.shown? command = some session)
    (obeyed : table.obey command = (screen, { table with session := some session }))
    (printed : Printed table.view screen (some session)) (seated : session.Seated) :
    table.Step command where
  printed := by rw [shown, obeyed]; exact printed
  session := by rw [shown, obeyed]; rfl
  view := by rw [obeyed]
  seated := by rw [shown]; rintro _ ⟨⟩; exact seated

theorem printed_passage (view : View) (session : Session) :
    Printed view (view.passage session) (some session) := by
  rw [view.passage_eq_screen]
  exact .passage session

theorem printed_arrival (view : View) (session : Session) :
    Printed view (view.arrival session) (some session) := by
  rw [View.arrival, view.passage_eq_screen]
  exact .arrival session

theorem step_choose (ready : table.Ready) (number : Nat) : table.Step (.choose number) := by
  cases inProgress : table.session with
  | none =>
    have shown : table.shown? (.choose number) = none := by rw [shown?, chosen?, inProgress]; rfl
    have obeyed : table.obey (.choose number) = (table.view.noGame, table) := by
      rw [obey, choose, inProgress]
    exact .aside _ shown obeyed (.denial _) rfl rfl
  | some session =>
    have chosen : table.shown? (.choose number) =
        (session.numbered? number).bind fun link =>
          match session.choose link.key with
          | (.ok _, next) => some next
          | (.error _, _) => none := by
      rw [shown?, chosen?, inProgress]
      rfl
    cases numbered : session.numbered? number with
    | none =>
      rw [numbered] at chosen
      exact .aside _ chosen (obey_choose_of_none inProgress numbered) (.denial _) rfl rfl
    | some link =>
      have obeyed := obey_choose_of_some ready inProgress numbered
      rw [numbered, Option.bind_some] at chosen
      rcases Session.choose_of_mem_offered (ready session inProgress)
          (Session.mem_offered_of_numbered? numbered) with
        ⟨violation, failed, refused⟩ | ⟨player, target, executed, moved, seated⟩
      · rw [refused] at chosen
        rw [failed] at obeyed
        exact .aside _ chosen obeyed (.failure _) rfl rfl
      · rw [moved] at chosen
        rw [executed] at obeyed
        exact .shows chosen obeyed (printed_passage _ _) seated

/-- A story is started, or the failure is shown and nothing changes. -/
theorem obey_play_cases (table : Table) (name : String) :
    (∃ message, table.started? name = none ∧
        table.obey (.play name) = (table.view.failure message, table)) ∨
      ∃ session, table.started? name = some session ∧ session.Seated ∧
        table.obey (.play name) =
          (table.view.arrival session, { table with session := some session }) := by
  rw [obey]
  unfold play started?
  cases opened : table.library.openStory table.tree name with
  | error error =>
    simp only
    exact .inl ⟨_, trivial, rfl⟩
  | ok story =>
    cases table.settings.player.player with
    | error violation =>
      simp only
      exact .inl ⟨_, trivial, rfl⟩
    | ok player =>
      have wellFormed := Library.wellFormed_of_openStory opened
      have seated : (Session.start ⟨player, story, table.settings.goals⟩).Seated :=
        ⟨Session.standing_start wellFormed.keyed, wellFormed⟩
      simp only
      exact .inr ⟨_, rfl, seated, rfl⟩

theorem step_play (table : Table) (name : String) : table.Step (.play name) := by
  rcases table.obey_play_cases name with ⟨message, none, failed⟩ | ⟨session, some, seated, played⟩
  · have shown : table.shown? (.play name) = Option.none := by rw [shown?, none]
    exact .aside _ shown failed (.failure _) rfl rfl
  · have shown : table.shown? (.play name) = Option.some session := by rw [shown?, some]
    exact .shows shown played (printed_arrival _ _) seated

theorem obey_load_of_error {slot : String} {error : LibraryError}
    (failed : table.library.loadSession table.tree slot = .error error) :
    table.obey (.load slot) = (table.view.failure error.message, table) := by
  unfold obey load
  simp only [failed]

theorem step_load (table : Table) (slot : String) : table.Step (.load slot) := by
  cases loaded : table.library.loadSession table.tree slot with
  | error error =>
    have shown : table.shown? (.load slot) = none := by
      rw [shown?, loaded]
      rfl
    exact .aside _ shown (obey_load_of_error loaded) (.failure _) rfl rfl
  | ok session =>
    have shown : table.shown? (.load slot) = some session := by
      rw [shown?, loaded]
      rfl
    rcases Library.exists_ofJson_of_loadSession loaded with ⟨text, read⟩
    refine .shows shown ?_ (printed_arrival _ _)
      ⟨Session.standing_ofJson read, Session.wellFormed_of_ofJson read⟩
    unfold obey load
    simp only [loaded]

theorem step_save (table : Table) (slot : String) : table.Step (.save slot) := by
  cases inProgress : table.session with
  | none =>
    refine .aside table rfl ?_ (.denial "No game in progress to save.") rfl rfl
    simp only [obey, save, inProgress]
  | some session =>
    rcases saved : table.library.savingSession table.tree slot session with ⟨error | path, left⟩
    · refine .aside { table with tree := left } rfl ?_ (.failure error.message) rfl rfl
      simp only [obey, save, inProgress, saved]
    · refine .aside { table with tree := left } rfl ?_ (.saved path) rfl rfl
      simp only [obey, save, inProgress, saved]

/-- A screen that depends on the game in progress prints nothing but itself. -/
theorem printed_withSession (table : Table) {screen : Session → Screen}
    (printed : ∀ session, Printed table.view (screen session) none) :
    Printed table.view (table.withSession screen) none := by
  unfold withSession
  split
  · exact printed _
  · exact .denial _

theorem step_look (ready : table.Ready) : table.Step .look := by
  cases inProgress : table.session with
  | none =>
    have obeyed : table.obey .look = (table.view.noGame, table) := by
      rw [obey, withSession, inProgress]
    exact .aside _ inProgress obeyed (.denial _) rfl rfl
  | some session =>
    have same : { table with session := some session } = table := by rw [← inProgress]
    refine .shows inProgress ?_ (printed_passage _ _) (ready session inProgress)
    rw [obey, withSession, inProgress, same]

/-- What every command does. -/
theorem step (ready : table.Ready) (command : Command) : table.Step command := by
  cases command with
  | choose number => exact step_choose ready number
  | look => exact step_look ready
  | status => exact .aside table rfl rfl (table.printed_withSession .status) rfl rfl
  | goals => exact .aside table rfl rfl (table.printed_withSession .goals) rfl rfl
  | list => exact .aside table rfl rfl (.stories _ _) rfl rfl
  | play name => exact step_play table name
  | save slot => exact step_save table slot
  | saves => exact .aside table rfl rfl (.saves _ _) rfl rfl
  | load slot => exact step_load table slot
  | help => exact .aside table rfl rfl .help rfl rfl
  | quit => exact .aside table rfl rfl .nothing rfl rfl
  | unknown text => exact .aside table rfl rfl (.denial _) rfl rfl

/-- A command leaves a table at which a session may be. -/
theorem Ready.obey (ready : table.Ready) (command : Command) : (table.obey command).2.Ready := by
  intro session inProgress
  have made := step ready command
  rw [made.session] at inProgress
  cases shown : table.shown? command with
  | none => exact ready session (by rw [shown] at inProgress; exact inProgress)
  | some next =>
    rw [shown] at inProgress
    cases inProgress
    exact made.seated _ shown

end Table

/-! ## The journal of an evening -/

/-- The command that a line gives.  A blank line, and one that is not text, gives
none. -/
def Command.ofContent? : Files.Content → Option Command
  | .bytes _ => none
  | .text line =>
    let line := dropLineEnds line.toList
    if Text.isBlank line then none else some (Command.ofLine (String.ofList line))

/-- What is printed from one prompt to the next, and whose passage that is. -/
structure Sheet where
  prompt : String
  screen : Screen
  shown : Option Session

def Sheet.text (sheet : Sheet) : String := sheet.prompt ++ Screen.text sheet.screen

/-- A prompt to which nothing is answered. -/
def Sheet.bare (prompt : String) : Sheet := ⟨prompt, [], none⟩

theorem Sheet.text_bare (prompt : String) : (bare prompt).text = prompt := String.append_empty

/-- The session whose passage is printed last. -/
def lastShown (sheets : List Sheet) : Option Session := (sheets.filterMap Sheet.shown).getLast?

theorem lastShown_cons (sheet : Sheet) (sheets : List Sheet) :
    lastShown (sheet :: sheets) = (lastShown sheets).or sheet.shown := by
  rw [lastShown, lastShown, List.filterMap_cons]
  cases sheet.shown with
  | none => rw [Option.or_none]
  | some session =>
    rw [List.getLast?_cons]
    cases (sheets.filterMap Sheet.shown).getLast? <;> rfl

namespace Table

/-- A line that is answered gave the command that is obeyed. -/
theorem obey_of_answered {table after : Table} {line : Files.Content} {screen : Screen}
    (answered : table.hear line = .answered screen after) :
    ∃ command, Command.ofContent? line = some command ∧ table.obey command = (screen, after) := by
  cases line with
  | bytes => cases answered
  | text line =>
    unfold hear at answered
    simp only at answered
    split at answered
    · cases answered
    · next notBlank =>
      refine ⟨_, if_neg notBlank, ?_⟩
      split at answered
      · cases answered
      · generalize table.obey (Command.ofLine _) = result at answered ⊢
        cases answered
        rfl

/-- The sheets that are printed while the player types lines. -/
def sheets (table : Table) : List Files.Content → List Sheet
  | [] => [.bare table.prompt]
  | line :: lines =>
    match table.hear line with
    | .passedOver => .bare table.prompt :: table.sheets lines
    | .answered screen after =>
      ⟨table.prompt, screen, (Command.ofContent? line).bind table.shown?⟩ :: after.sheets lines
    | .left | .unreadable => [.bare table.prompt]

/-- The sheets of the whole evening. -/
def journal (table : Table) (wanted : Option String) (lines : List Files.Content) : List Sheet :=
  let (screen, after) := table.firstScreen wanted
  ⟨"", screen, wanted.bind table.started?⟩ :: after.sheets lines

/-- Says that sheets are what was printed from a table on, and that the session whose
passage was printed last is the one that is left in progress. -/
structure Attends (table : Table) (sheets : List Sheet) (transcript : Transcript) : Prop where
  output : transcript.output = String.join (sheets.map Sheet.text)
  printed : ∀ sheet ∈ sheets, Printed table.view sheet.screen sheet.shown
  session : transcript.table.session = (lastShown sheets).or table.session
  view : transcript.table.view = table.view
  ready : transcript.table.Ready

theorem attends_bare {table : Table} (ready : table.Ready) (failed : Bool) :
    table.Attends [.bare table.prompt] ⟨table.prompt, table, failed⟩ where
  output := by rw [List.map_singleton, String.join_cons, Sheet.text_bare, String.join_nil,
    String.append_empty]
  printed sheet member := List.mem_singleton.mp member ▸ .nothing
  session := rfl
  view := rfl
  ready := ready

/-- A sheet that goes before others. -/
theorem Attends.cons {table after : Table} (sheet : Sheet) {sheets : List Sheet}
    {transcript : Transcript} (printed : Printed table.view sheet.screen sheet.shown)
    (session : after.session = sheet.shown.or table.session) (view : after.view = table.view)
    (rest : after.Attends sheets transcript) :
    table.Attends (sheet :: sheets)
      { transcript with output := sheet.text ++ transcript.output } where
  output := by rw [List.map_cons, String.join_cons, rest.output]
  printed := List.forall_mem_cons.mpr ⟨printed, view ▸ rest.printed⟩
  session := by rw [rest.session, session, lastShown_cons, Option.or_assoc]
  view := rest.view.trans view
  ready := rest.ready

/-- The player types line after line. -/
theorem attends_goOn {table : Table} (ready : table.Ready) (lines : List Files.Content) :
    table.Attends (table.sheets lines) (table.goOn lines) := by
  induction lines generalizing table with
  | nil => exact attends_bare ready false
  | cons line lines ih =>
    rw [sheets, goOn]
    cases heard : table.hear line with
    | passedOver =>
      have rest := Attends.cons (.bare table.prompt) .nothing rfl rfl (ih ready)
      rw [Sheet.text_bare] at rest
      exact rest
    | answered screen after =>
      rcases obey_of_answered heard with ⟨command, given, obeyed⟩
      have made := step ready command
      have readyAfter := ready.obey command
      rw [obeyed] at readyAfter
      have same : after = (table.obey command).2 := by rw [obeyed]
      have shown : (Command.ofContent? line).bind table.shown? = table.shown? command := by
        rw [given, Option.bind_some]
      have printed := made.printed
      rw [obeyed] at printed
      refine Attends.cons ⟨table.prompt, screen, _⟩ ?_ ?_ ?_ (ih readyAfter)
      · rw [shown]
        exact printed
      · rw [shown, same]
        exact made.session
      · rw [same]
        exact made.view
    | left => exact attends_bare ready false
    | unreadable => exact attends_bare ready true

/-- A whole evening at a table. -/
theorem attends_transcript {table : Table} (ready : table.Ready) (wanted : Option String)
    (lines : List Files.Content) :
    table.Attends (table.journal wanted lines) (table.transcript wanted lines) := by
  cases wanted with
  | none =>
    have rest := Attends.cons ⟨"", table.view.stories table.library table.tree, none⟩
      (.stories _ _) rfl rfl (attends_goOn ready lines)
    rw [Sheet.text, String.empty_append] at rest
    exact rest
  | some name =>
    rcases step_play table name with ⟨printed, session, view, -⟩
    have readyAfter := ready.obey (.play name)
    rw [obey] at printed session view readyAfter
    rw [shown?] at printed session
    have first : table.firstScreen (some name) = table.play name := rfl
    rw [journal, transcript, first, Option.bind_some]
    -- From here on it does not matter which story is opened, and with what outcome.
    generalize table.play name = opened at printed session view readyAfter ⊢
    generalize table.started? name = shown at printed session ⊢
    rcases opened with ⟨screen, after⟩
    have rest := (attends_goOn readyAfter lines).cons ⟨"", screen, shown⟩ printed session view
    rw [Sheet.text, String.empty_append] at rest
    exact rest

/-! ## What the numbers mean -/

/-- Says that the passage that was printed last shows what can be chosen, and that
only a choice that is made and a game that is started or loaded change the game. -/
structure InStep (shown : Option Session) (table : Table) : Prop where
  /-- The numbers on the page are those of the links that are offered now. -/
  numbered : ∀ session, table.session = some session →
    ∃ last, shown = some last ∧ (table.view.page last).choices =
      session.offered.zipIdx.map fun (link, index) =>
        (index + 1, table.view.paint .link link.text)
  /-- The number of a link executes the actions of that link and leads where it
  leads.  When an action is forbidden, nothing changes. -/
  chosen : ∀ session, table.session = some session → ∀ index link,
    session.offered[index]? = some link →
      table.obey (.choose (index + 1)) =
        match Action.executeAll link.actions session.player with
        | .error violation => (table.view.failure (ChoiceError.rejected violation).message, table)
        | .ok player =>
          (table.view.passage (session.moved link player),
            { table with session := some (session.moved link player) })
  beyond : ∀ session, table.session = some session → ∀ number,
    number = 0 ∨ session.offered.length < number →
      table.obey (.choose number) =
        (table.view.denial ("There is no choice " ++ Text.decimal number ++ "."), table)
  failedPlay : ∀ name, table.started? name = none → (table.obey (.play name)).2 = table
  failedLoad : ∀ slot error, table.library.loadSession table.tree slot = .error error →
    (table.obey (.load slot)).2 = table
  others : ∀ command, (∀ number, command ≠ .choose number) → (∀ name, command ≠ .play name) →
    (∀ slot, command ≠ .load slot) → (table.obey command).2.session = table.session

theorem inStep_of_attends {table : Table} (fresh : table.session = none) {sheets : List Sheet}
    {transcript : Transcript} (attends : table.Attends sheets transcript) :
    InStep (lastShown sheets) transcript.table where
  numbered := by
    intro session inProgress
    have shown := attends.session.symm.trans inProgress
    rw [fresh, Option.or_none] at shown
    exact ⟨session, shown, View.choices_page _ session⟩
  chosen := by
    intro session inProgress index link offered
    have numbered : session.numbered? (index + 1) = some link := by
      rw [Session.numbered?, if_neg (Nat.succ_ne_zero index), Nat.add_sub_cancel, offered]
    exact obey_choose_of_some attends.ready inProgress numbered
  beyond := by
    intro session inProgress number outside
    exact obey_choose_of_none inProgress (Session.numbered?_eq_none_iff.mpr outside)
  failedPlay := by
    intro name failed
    rcases obey_play_cases transcript.table name with ⟨message, -, kept⟩ | ⟨session, started, -⟩
    · rw [kept]
    · rw [failed] at started
      cases started
  failedLoad := by
    intro slot error failed
    rw [obey_load_of_error failed]
  others := by
    intro command notChoose notPlay notLoad
    have kept := (step attends.ready command).session
    cases command with
    | choose number => exact absurd rfl (notChoose number)
    | play name => exact absurd rfl (notPlay name)
    | load slot => exact absurd rfl (notLoad slot)
    | look => exact kept.trans Option.or_self
    | _ => exact kept

end Table

/-- Whatever the player types, the passage that was printed last numbers the links
that may be chosen now, and a number means the link that it stands for on the
page. -/
theorem inStep_transcript (view : View) (library : Library) (settings : Settings)
    (tree : Files.Tree) (wanted : Option String) (lines : List Files.Content) :
    let table : Table := ⟨view, library, settings, tree, none⟩
    let transcript := table.transcript wanted lines
    let sheets := table.journal wanted lines
    transcript.output = String.join (sheets.map Sheet.text) ∧
      (∀ sheet ∈ sheets, Printed view sheet.screen sheet.shown) ∧
        Table.InStep (lastShown sheets) transcript.table := by
  intro table transcript sheets
  have ready : table.Ready := nofun
  have attends := Table.attends_transcript ready wanted lines
  exact ⟨attends.output, attends.printed, Table.inStep_of_attends rfl attends⟩

end Play
end Gamebook
