import Gamebook.Proofs.Script.Lines

namespace Gamebook

/-!
# A story is read back from its script

The script of a story is cut into one block for each passage, each block is read
as its passage, and the passages are stored in the order in which they stand.
The three steps are kept apart: cutting needs only to know which lines go on
with a block, reading a block needs only the passage's own rules, and storing
needs only the order of the titles.

Lines are numbered while they are read, so every statement is about any first
number.
-/

namespace Passage

/-- The lines of a passage's block behind its header. -/
def body (passage : Passage) : List (List Char) :=
  passage.attributeLines ++ passage.content.toList :: passage.links.flatMap Link.lines

theorem lines_eq (passage : Passage) : passage.lines = passage.headerLine :: passage.body := rfl

/-- What a line behind the header can be. -/
theorem mem_body {passage : Passage} {text : List Char} (member : text ∈ passage.body) :
    text = Script.moodMark ++ passage.mood.key.toList ∨ text = Script.singleVisitLine ∨
      text = passage.content.toList ∨
        ∃ link ∈ passage.links, text = link.line ∨ text = link.actionLine := by
  rcases List.mem_append.mp member with onAttribute | rest
  · rcases List.mem_append.mp onAttribute with isMood | isSingleVisit
    · split at isMood
      · cases isMood
      · exact .inl (List.mem_singleton.mp isMood)
    · split at isSingleVisit
      · exact .inr (.inl (List.mem_singleton.mp isSingleVisit))
      · cases isSingleVisit
  · rcases List.mem_cons.mp rest with isContent | onLink
    · exact .inr (.inr (.inl isContent))
    · rcases List.mem_flatMap.mp onLink with ⟨link, listed, line⟩
      refine .inr (.inr (.inr ⟨link, listed, ?_⟩))
      rw [Link.lines] at line
      split at line
      · exact .inl (List.mem_singleton.mp line)
      · exact (List.mem_cons.mp line).imp id List.mem_singleton.mp

/-- The block of a passage whose header has the given number. -/
def block (passage : Passage) (number : Nat) : Script.Block :=
  ⟨⟨number, passage.headerLine⟩, Script.numberFrom (number + 1) passage.body⟩

end Passage

namespace Script

/-! ## Cutting a script into blocks -/

theorem numberFrom_append (number : Nat) (first second : List (List Char)) :
    numberFrom number (first ++ second) =
      numberFrom number first ++ numberFrom (number + first.length) second := by
  induction first generalizing number with
  | nil => rfl
  | cons text first ih =>
    rw [List.cons_append, numberFrom, numberFrom, ih, List.cons_append, List.length_cons,
      Nat.add_assoc, Nat.add_comm 1]

theorem text_mem_of_mem_numberFrom {number : Nat} {texts : List (List Char)} {line : Line}
    (member : line ∈ numberFrom number texts) : line.text ∈ texts := by
  induction texts generalizing number with
  | nil => cases member
  | cons text texts ih =>
    rcases List.mem_cons.mp member with rfl | later
    · exact List.mem_cons_self
    · exact List.mem_cons_of_mem text (ih later)

/-- Every line of a passage behind its header goes on with the passage's block. -/
theorem continuesBlock_of_mem_body {passage : Passage} (wellFormed : passage.WellFormed)
    {text : List Char} (member : text ∈ passage.body) (number : Nat) :
    Line.continuesBlock ⟨number, text⟩ = true := by
  rcases Passage.mem_body member with rfl | rfl | rfl | ⟨link, -, rfl | rfl⟩
  · exact continuesBlock_of_head (c := '@') rfl (by decide) (by decide)
  · exact continuesBlock_of_head (c := '@') rfl (by decide) (by decide)
  · exact continuesBlock_content wellFormed.content number
  · exact continuesBlock_line link number
  · exact continuesBlock_actionLine link number

/-- The blocks of passages, each of which is followed by a blank line. -/
def blocksFrom : Nat → List Passage → List Block
  | _, [] => []
  | number, passage :: passages =>
    passage.block number :: blocksFrom (number + passage.lines.length + 1) passages

/-- The first block of a script is that of the first passage. -/
theorem blocks_passage {passage : Passage} (wellFormed : passage.WellFormed) (number : Nat)
    (rest : List (List Char)) :
    blocks (numberFrom number (passage.lines ++ [] :: rest)) =
      passage.block number :: blocks (numberFrom (number + passage.lines.length + 1) rest) := by
  have continues : ∀ line ∈ numberFrom (number + 1) passage.body, line.continuesBlock = true :=
    fun line member =>
      continuesBlock_of_mem_body wellFormed (text_mem_of_mem_numberFrom member) line.number
  have header : Line.isBlank ⟨number, passage.headerLine⟩ = false := by
    rw [Line.isBlank, Passage.headerLine, headerMark, List.cons_append, Text.isBlank_cons]
    rfl
  have stops (n : Nat) (line : Line) (first : (numberFrom n ([] :: rest)).head? = some line) :
      line.continuesBlock = false := by
    cases first
    rfl
  have blank (n : Nat) : Line.isBlank ⟨n, []⟩ = true := rfl
  rw [Passage.lines_eq, List.cons_append, numberFrom, numberFrom_append,
    blocks_append header continues (stops _), numberFrom, blocks, if_pos (blank _),
    List.length_cons]
  rw [show number + 1 + passage.body.length + 1 = number + (passage.body.length + 1) + 1 by omega]
  rfl

theorem blocks_passages {passages : List Passage}
    (wellFormed : ∀ passage ∈ passages, passage.WellFormed) (number : Nat) :
    blocks (numberFrom number (passages.flatMap fun passage => passage.lines ++ [[]])) =
      blocksFrom number passages := by
  induction passages generalizing number with
  | nil => simp [numberFrom, blocks, blocksFrom]
  | cons passage passages ih =>
    rw [List.flatMap_cons, List.append_assoc, List.singleton_append,
      blocks_passage (wellFormed passage List.mem_cons_self),
      ih fun other member => wellFormed other (List.mem_cons_of_mem passage member), blocksFrom]

/-! ## Reading a block -/

theorem readAttributes_attributeLines {passage : Passage} (wellFormed : passage.WellFormed)
    (number : Nat) (rest : List (List Char)) :
    readAttributes {} (numberFrom number
        (passage.attributeLines ++ passage.content.toList :: rest)) =
      .ok (⟨passage.mood, passage.singleVisit⟩,
        numberFrom (number + passage.attributeLines.length) (passage.content.toList :: rest)) := by
  have stop (n : Nat) := @readAttributes_stop ⟨n, passage.content.toList⟩
    (content_opening wellFormed.content).1
  rw [Passage.attributeLines]
  by_cases mood : passage.mood = .none <;> cases visit : passage.singleVisit <;>
    simp [mood, numberFrom, readAttributes_mood, readAttributes_singleVisit, stop]

/-- What is read of the lines of links, when `attached` is the passage to which
the link before them has been added. -/
theorem readLinks_lines {links : List Link} (wellFormed : ∀ link ∈ links, link.WellFormed)
    {passage attached : Passage} {pending : Option Pending} (number : Nat)
    (attach_eq : attach passage pending = .ok attached)
    (distinct : ((attached.links ++ links).map Link.key).Nodup) :
    readLinks passage pending (numberFrom number (links.flatMap Link.lines)) =
      .ok { attached with links := attached.links ++ links } := by
  induction links generalizing passage attached pending number with
  | nil => simp [numberFrom, readLinks, attach_eq]
  | cons link links ih =>
    have linkWellFormed := wellFormed link List.mem_cons_self
    have fresh : link.key ∉ attached.links.map Link.key := by
      rw [List.map_append, List.nodup_append] at distinct
      exact fun member => distinct.2.2 link.key member link.key List.mem_cons_self rfl
    have next (pending : Option Pending) :=
      @ih (fun other member => wellFormed other (List.mem_cons_of_mem link member)) attached
        { attached with links := attached.links ++ [link] } pending
    simp only [List.append_assoc, List.singleton_append] at next
    have complete : ∀ n hasActions,
        attach attached (some ⟨⟨n, link.line⟩, link, hasActions⟩) =
          .ok { attached with links := attached.links ++ [link] } := by
      intro n hasActions
      rw [attach, Passage.addLink_of_fresh fresh]
      rfl
    rw [List.flatMap_cons, numberFrom_append, Link.lines]
    split
    · next noActions =>
      have bare : (⟨link.key, []⟩ : Link) = link := by
        rw [← List.isEmpty_iff.mp noActions]
      simp only [numberFrom, List.cons_append, List.nil_append]
      rw [readLinks_cons_link (isActions_line link number), attach_eq, ok_bind,
        readLink_line linkWellFormed, ok_bind, bare]
      exact next _ _ (complete number false) distinct
    · simp only [numberFrom, List.cons_append, List.nil_append]
      rw [readLinks_cons_link (isActions_line link number), attach_eq, ok_bind,
        readLink_line linkWellFormed, ok_bind,
        readLinks_cons_actions (isActions_actionLine link (number + 1)),
        readActions_actionLine linkWellFormed, ok_bind]
      exact next _ _ (complete number true) distinct

/-- A passage is read back from its block. -/
theorem read_block {passage : Passage} (wellFormed : passage.WellFormed) (number : Nat) :
    (passage.block number).read = .ok passage := by
  rw [Passage.block, Block.read, Passage.headerLine, stripOpening?_append]
  simp only [Passage.body, readAttributes_attributeLines wellFormed, ok_bind, numberFrom,
    String.ofList_toList, Passage.create_of_wellFormed wellFormed, obeyingAt]
  rw [readLinks_lines wellFormed.links _ rfl (by simpa using wellFormed.keys)]
  simp

/-! ## Reading a story -/

/-- Passages that come in order are stored behind those that are there. -/
theorem readStored_blocksFrom {passages : List Passage}
    (wellFormed : ∀ passage ∈ passages, passage.WellFormed) {story : Story}
    (keyed : story.KeyedByTitle) (number : Nat)
    (ordered : Ascending Passage.title (story.stored ++ passages))
    (apart : ∀ passage ∈ passages, passage.title ≠ story.opening.title) :
    readStored story (blocksFrom number passages) =
      .ok { story with filed := Story.filing (story.stored ++ passages) } := by
  induction passages generalizing story number with
  | nil =>
    rw [List.append_nil, ← keyed.filed_eq]
    rfl
  | cons passage passages ih =>
    have above : ∀ other ∈ story.stored, other.title < passage.title :=
      fun other member => (List.pairwise_append.mp ordered).2.2 other member passage
        List.mem_cons_self
    have added := Story.add?_of_above keyed (apart passage List.mem_cons_self) above
    have rest := ih (fun other member => wellFormed other (List.mem_cons_of_mem passage member))
      (Story.keyedByTitle_of_add? keyed added)
    simp only [Story.stored_filing, List.append_assoc, List.singleton_append] at rest
    rw [blocksFrom, readStored, read_block (wellFormed passage List.mem_cons_self), ok_bind, added]
    exact rest _ ordered fun other member => apart other (List.mem_cons_of_mem passage member)

/-! ## Every line stands on a line -/

theorem isLine_short {action : Action} (valid : action.Valid) :
    Text.IsLine action.short.toList := by
  have letter : Text.IsLine action.aspect.letter.toList := by
    rcases action.aspect with (_ | _ | _) | _ <;> decide
  rw [Action.toList_short, Text.isLine_append, Text.isLine_cons]
  refine ⟨letter, by decide, ?_⟩
  cases action with
  | change counter amount =>
    rw [Action.payloadText, Text.toList_decimal]
    intro c member
    have solid := Text.isBlankChar_of_mem_numeral member
    constructor <;> (rintro rfl; exact absurd solid (by decide))
  | take item => exact Rule.isLine_of_text (Rule.item_eq_ok_iff.mp valid).1

theorem isLine_line {link : Link} (wellFormed : link.WellFormed) : Text.IsLine link.line := by
  have text := Rule.isLine_of_text (Rule.linkPart_eq_ok_iff.mp wellFormed.text).1
  have reference := Rule.isLine_of_text (Rule.linkPart_eq_ok_iff.mp wellFormed.reference).1
  rw [Link.line, Text.isLine_append, Text.isLine_append, Text.isLine_append, Text.isLine_cons]
  exact ⟨⟨⟨⟨by decide, text⟩, by decide⟩, reference⟩, by decide⟩

theorem isLine_actionLine {link : Link} (wellFormed : link.WellFormed) :
    Text.IsLine link.actionLine := by
  have shorts : ∀ short ∈ link.actions.map fun action => action.short.toList,
      Text.IsLine short := by
    intro short member
    rcases List.mem_map.mp member with ⟨action, listed, rfl⟩
    exact isLine_short (wellFormed.actions action listed)
  rw [Link.actionLine, Text.isLine_append, Text.isLine_cons]
  exact ⟨⟨by decide, Text.isLine_join (by decide) shorts⟩, by decide⟩

/-- No line of a well-formed passage holds a line break. -/
theorem isLine_of_mem_lines {passage : Passage} (wellFormed : passage.WellFormed)
    {line : List Char} (member : line ∈ passage.lines) : Text.IsLine line := by
  rcases List.mem_cons.mp member with rfl | inBody
  · rw [Passage.headerLine, Text.isLine_append]
    exact ⟨by decide, Rule.isLine_of_text wellFormed.title⟩
  · rcases Passage.mem_body inBody with rfl | rfl | rfl | ⟨link, listed, rfl | rfl⟩
    · cases passage.mood <;> decide
    · decide
    · exact Rule.isLine_of_text (Rule.content_eq_ok_iff.mp wellFormed.content).1
    · exact isLine_line (wellFormed.links link listed)
    · exact isLine_actionLine (wellFormed.links link listed)

theorem isLine_of_mem_linesWith {story : Story} (wellFormed : story.WellFormed) {line : List Char}
    (member : line ∈ story.linesWith Passage.lines) : Text.IsLine line := by
  rcases List.mem_cons.mp member with rfl | rest
  · exact Rule.isLine_of_text wellFormed.title
  · rcases List.mem_cons.mp rest with rfl | onPassage
    · decide
    · rcases List.mem_flatMap.mp onPassage with ⟨passage, listed, written⟩
      rcases List.mem_append.mp written with inLines | blank
      · exact isLine_of_mem_lines (wellFormed.passages passage listed) inLines
      · rw [List.mem_singleton.mp blank]
        decide

/-- The lines of a well-formed story are read back as the story. -/
theorem readLines_linesWith {story : Story} (wellFormed : story.WellFormed) :
    readLines (story.linesWith Passage.lines) = .ok story := by
  have title := (Rule.text_eq_ok_iff.mp wellFormed.title).1
  have opening := wellFormed.passages story.opening List.mem_cons_self
  have stored := fun passage member =>
    wellFormed.passages passage (List.mem_cons_of_mem story.opening member)
  have created : Story.create story.title story.opening = .ok { story with filed := [] } := by
    rw [Story.create, wellFormed.title, ok_bind]
  have begun : Story.KeyedByTitle { story with filed := [] } := List.forall_mem_nil _
  rw [Story.linesWith, readLines, title]
  simp only [Bool.false_eq_true, if_false, Text.isBlank_nil, Bool.not_true,
    blocks_passages wellFormed.passages]
  simp only [Story.passages, blocksFrom, read_block opening, ok_bind, String.ofList_toList,
    created, obeyingAt]
  refine (readStored_blocksFrom stored begun _ wellFormed.ordered wellFormed.openingApart).trans ?_
  rw [Story.stored, List.map_nil, List.nil_append, ← wellFormed.keyed.filed_eq]

end Script

/-- A well-formed story is read back from its script. -/
theorem Story.ofScript_of_wellFormed {story : Story} (wellFormed : story.WellFormed) :
    Story.ofScript story.script = .ok story := by
  rw [Story.ofScript, Story.script, String.toList_ofList,
    Text.lines_unlines fun line => Script.isLine_of_mem_linesWith wellFormed]
  exact Script.readLines_linesWith wellFormed

/-- Whatever characters the rules admit, a well-formed story is read back from
its script: every field, the order of the links, and every list of actions. -/
theorem ofScript_script (story : Story) (wellFormed : story.WellFormed) :
    ∃ read, Story.ofScript story.script = .ok read ∧ read.identical story = true ∧
      read = story :=
  ⟨story, Story.ofScript_of_wellFormed wellFormed, Story.identical_self wellFormed, rfl⟩

/-- A story whose texts look like other lines of a script. -/
def disguised : Story where
  title := " ::Title "
  opening :=
    { title := "::@mood ]("
      content := "\u00a0@single-visit"
      mood := .dark
      singleVisit := true
      links :=
        [⟨⟨"]a: \x7bH:1\x7d ", " (b)"⟩, [.change .health (-10), .take "I:a](b): c"]⟩,
          ⟨⟨"[x]", "]"⟩, []⟩] }
  filed := Story.filing
    [⟨"\u2003B", "[x](y)", .none, false, [⟨⟨"\x7b", "\x7d"⟩, [.change .gold 2147483647]⟩]⟩]

theorem ofScript_script_disguised :
    disguised.WellFormed ∧ ∃ read, Story.ofScript disguised.script = .ok read ∧
      read.identical disguised = true ∧ read = disguised :=
  ⟨by decide, ofScript_script disguised (by decide)⟩

end Gamebook
