import Gamebook.Proofs.Script.Acceptance

namespace Gamebook
namespace Script

/-!
# The line of a fault

A script is refused at the line that is to blame.  What that line looks like depends on
the cause, and it is said here of the lines of the whole text: the reader has only a
block before it, or what is left of one, when it refuses a line.

Most lines are refused while they are read.  A link is refused later, because it is put
on its passage when the line behind it has been seen.  It keeps its own line until then,
and the links that are on the passage have theirs further up in the block.
-/

/-! ## Numbered lines -/

theorem mem_numberFrom_iff {first : Nat} {texts : List (List Char)} {line : Line} :
    line ∈ numberFrom first texts ↔
      ∃ index, line.number = first + index ∧ texts[index]? = some line.text := by
  induction texts generalizing first with
  | nil =>
    apply iff_of_false List.not_mem_nil
    rintro ⟨index, -, found⟩
    cases found
  | cons text texts ih =>
    rw [numberFrom, List.mem_cons, ih]
    constructor
    · intro member
      rcases member with here | ⟨index, number, found⟩
      · rw [here]
        exact ⟨0, rfl, rfl⟩
      · refine ⟨index + 1, ?_, found⟩
        omega
    · rintro ⟨index, number, found⟩
      cases index with
      | zero =>
        rcases line with ⟨_, _⟩
        cases number
        cases found
        exact .inl rfl
      | succ index =>
        refine .inr ⟨index, ?_, found⟩
        omega

/-- The number of a line is one of those that are given out. -/
theorem number_bounds {first : Nat} {texts : List (List Char)} {line : Line}
    (member : line ∈ numberFrom first texts) :
    first ≤ line.number ∧ line.number < first + texts.length := by
  rcases mem_numberFrom_iff.mp member with ⟨index, number, found⟩
  have inside := (List.getElem?_eq_some_iff.mp found).1
  omega

/-- Says that lines are numbered upwards. -/
abbrev Ordered (lines : List Line) : Prop :=
  lines.Pairwise fun line later => line.number < later.number

theorem ordered_numberFrom (first : Nat) (texts : List (List Char)) :
    Ordered (numberFrom first texts) := by
  induction texts generalizing first with
  | nil => exact .nil
  | cons text texts ih =>
    rw [numberFrom]
    apply List.Pairwise.cons
    · intro later member
      exact (number_bounds member).1
    · exact ih (first + 1)

/-! ## Blocks among lines -/

/-- Says that lines are a block among others: a header and lines that go on with it. -/
structure IsBlockOf (lines : List Line) (header : Line) (body : List Line) : Prop where
  isHeader : header.isHeader = true
  continues : ∀ line ∈ body, line.continuesBlock = true
  part : header :: body <:+: lines

/-- Says that a block has this content, with attributes before it and lines behind it. -/
def HasContent (lines : List Line) (header content : Line) (behind : List Line) : Prop :=
  ∃ attributes said, IsBlockOf lines header (attributes ++ content :: behind) ∧
    List.Forall₂ AttributeLine (attributes.map Line.text) said

theorem IsBlockOf.header_mem {lines : List Line} {header : Line} {body : List Line}
    (block : IsBlockOf lines header body) : header ∈ lines :=
  block.part.subset List.mem_cons_self

theorem IsBlockOf.body_mem {lines : List Line} {header line : Line} {body : List Line}
    (block : IsBlockOf lines header body) (member : line ∈ body) : line ∈ lines :=
  block.part.subset (List.mem_cons_of_mem header member)

theorem IsBlockOf.ordered {lines : List Line} {header : Line} {body : List Line}
    (block : IsBlockOf lines header body) (ordered : Ordered lines) : Ordered body :=
  (List.pairwise_cons.mp (ordered.sublist block.part.sublist)).2

theorem HasContent.mem {lines : List Line} {header content line : Line} {behind : List Line}
    (hasContent : HasContent lines header content behind) (member : line ∈ behind) :
    line ∈ lines := by
  rcases hasContent with ⟨attributes, said, block, -⟩
  exact block.body_mem (List.mem_append_right attributes (List.mem_cons_of_mem content member))

theorem HasContent.ordered {lines : List Line} {header content : Line} {behind : List Line}
    (hasContent : HasContent lines header content behind) (ordered : Ordered lines) :
    Ordered behind := by
  rcases hasContent with ⟨attributes, said, block, -⟩
  have body := block.ordered ordered
  exact (List.pairwise_cons.mp (List.pairwise_append.mp body).2.1).2

theorem part_of_mem_blocks {lines : List Line} {block : Block} (member : block ∈ blocks lines) :
    block.header :: block.body <:+: lines ∧
      ∀ line ∈ block.body, line.continuesBlock = true := by
  induction lines using blocks.induct with
  | case1 =>
    rw [blocks] at member
    cases member
  | case2 line lines blank ih =>
    rw [blocks, if_pos blank] at member
    rcases ih member with ⟨part, continues⟩
    exact ⟨part.trans (List.suffix_cons line lines).isInfix, continues⟩
  | case3 line lines solid ih =>
    rw [blocks, if_neg solid] at member
    rcases List.mem_cons.mp member with here | later
    · rw [here]
      constructor
      · have taken := List.takeWhile_prefix Line.continuesBlock (l := lines)
        exact ((List.prefix_cons_inj line).mpr taken).isInfix
      · intro other taken
        exact List.all_eq_true.mp List.all_takeWhile other taken
    · rcases ih later with ⟨part, continues⟩
      have dropped := List.dropWhile_suffix Line.continuesBlock (l := lines)
      exact ⟨part.trans (dropped.trans (List.suffix_cons line lines)).isInfix, continues⟩

theorem headers_sublist (lines : List Line) : ((blocks lines).map Block.header).Sublist lines := by
  induction lines using blocks.induct with
  | case1 =>
    rw [blocks]
    exact .slnil
  | case2 line lines blank ih =>
    rw [blocks, if_pos blank]
    exact ih.cons line
  | case3 line lines solid ih =>
    rw [blocks, if_neg solid, List.map_cons]
    exact (ih.trans (List.dropWhile_sublist Line.continuesBlock)).cons_cons line

/-- Without a block there are only blank lines. -/
theorem isBlank_of_blocks_nil {lines : List Line} (none : blocks lines = []) {line : Line}
    (member : line ∈ lines) : line.isBlank = true := by
  induction lines using blocks.induct with
  | case1 => cases member
  | case2 first lines blank ih =>
    rw [blocks, if_pos blank] at none
    rcases List.mem_cons.mp member with here | later
    · rw [here]
      exact blank
    · exact ih none later
  | case3 first lines solid =>
    rw [blocks, if_neg solid] at none
    cases none

/-! ## What a line has to do with its refusal -/

/-- Says that a line repeats the link of an earlier line of its block. -/
def RepeatsLink (lines : List Line) (number : Nat) (key : LinkKey) : Prop :=
  ∃ header content behind, HasContent lines header content behind ∧
    ∃ earlier ∈ behind, ∃ line ∈ behind, line.number = number ∧ earlier.number < number ∧
      LinkLine earlier.text key ∧ LinkLine line.text key

/-- Says that a line has the shape of a link's line, with these two parts. -/
def LinkShaped (line text reference : List Char) : Prop :=
  ∃ after, Text.isBlank after = true ∧
    line = '[' :: text ++ [']', '('] ++ reference ++ [')'] ++ after

/-- Says that a rule is broken at the line with this number: by the title of the story, by
the title of a passage or the content below it, or by a link. -/
inductive BreaksRule (lines : List Line) (number : Nat) (violation : Violation) : Prop
  | title {title : String} (first : number = 1) (line : ⟨1, title.toList⟩ ∈ lines)
      (broken : Rule.text "story title" Limits.storyTitle title = .error violation)
  | passage {title : String} {content : Line} {behind : List Line}
      (block : HasContent lines ⟨number, headerMark ++ title.toList⟩ content behind)
      (broken : Passage.create title (String.ofList content.text) = .error violation)
  | link {line : List Char} {text reference : String} (member : ⟨number, line⟩ ∈ lines)
      (shaped : LinkShaped line text.toList reference.toList)
      (broken : Link.create text reference = .error violation ∨
        violation = .duplicateLink text reference)

/-- What is to be seen at the line that is refused.  A script that has no title or no
opening is not refused for what is at a line. -/
def Cause.SeenAt (lines : List Line) (number : Nat) : Cause → Prop
  | .missingTitle | .missingOpening => False
  | .missingContent title => ⟨number, headerMark ++ title.toList⟩ ∈ lines
  | .malformed _ found => ⟨number, found.toList⟩ ∈ lines
  | .action _ => ∃ text, ⟨number, text⟩ ∈ lines ∧ (Text.trimStart text).head? = some '\x7b'
  | .invalid violation => BreaksRule lines number violation ∧
      ∀ text reference, violation = .duplicateLink text reference →
        RepeatsLink lines number ⟨text, reference⟩
  | .duplicatePassage title => ⟨number, headerMark ++ title.toList⟩ ∈ lines ∧
      ∃ earlier < number, ⟨earlier, headerMark ++ title.toList⟩ ∈ lines

/-- Says that a fault points at the line that is to blame for it. -/
def Fault.PointsInto (texts : List (List Char)) (fault : Fault) : Prop :=
  match fault.cause with
  | .missingTitle => fault.line = 1 ∧ ∀ text, texts.head? = some text → Text.isBlank text = true
  | .missingOpening => fault.line = texts.length + 1 ∧
      ∀ text ∈ texts.tail, Text.isBlank text = true
  | cause => cause.SeenAt (numberFrom 1 texts) fault.line

/-- A line at which something is seen is one of the lines. -/
theorem Cause.SeenAt.exists_line {lines : List Line} {number : Nat} {cause : Cause}
    (seen : cause.SeenAt lines number) : ∃ text, ⟨number, text⟩ ∈ lines := by
  cases cause with
  | missingTitle => exact seen.elim
  | missingOpening => exact seen.elim
  | missingContent title => exact ⟨_, seen⟩
  | malformed reason found => exact ⟨_, seen⟩
  | action error =>
    rcases seen with ⟨text, member, -⟩
    exact ⟨text, member⟩
  | duplicatePassage title => exact ⟨_, seen.1⟩
  | invalid violation =>
    cases seen.1 with
    | title first line broken =>
      rw [first]
      exact ⟨_, line⟩
    | passage block broken =>
      rcases block with ⟨attributes, said, block, -⟩
      exact ⟨_, block.header_mem⟩
    | link member shaped broken => exact ⟨_, member⟩

/-- What is seen at a line is not seen behind the last. -/
theorem Fault.PointsInto.bounds {texts : List (List Char)} {fault : Fault}
    (points : fault.PointsInto texts) : 1 ≤ fault.line ∧ fault.line ≤ texts.length + 1 := by
  have ofLine (seen : fault.cause.SeenAt (numberFrom 1 texts) fault.line) :
      1 ≤ fault.line ∧ fault.line ≤ texts.length + 1 := by
    rcases seen.exists_line with ⟨text, member⟩
    have bounds := number_bounds member
    dsimp only at bounds
    omega
  rw [PointsInto] at points
  split at points
  · rw [points.1]
    omega
  · rw [points.1]
    omega
  · exact ofLine points

/-- Says that what a fault is about is seen at its line. -/
abbrev Fault.SeenIn (lines : List Line) (fault : Fault) : Prop :=
  fault.cause.SeenAt lines fault.line

section

variable {lines : List Line} {line : Line} {fault : Fault}

/-! ## Rules -/

theorem obeyingAt_eq_error_iff {α : Type} {result : Except Violation α} :
    obeyingAt line result = .error fault ↔
      ∃ violation, result = .error violation ∧ fault = ⟨line.number, .invalid violation⟩ := by
  cases result with
  | ok value =>
    apply iff_of_false error_ne_ok.symm
    rintro ⟨violation, refused, -⟩
    cases refused
  | error violation =>
    rw [obeyingAt, refuse, Except.error.injEq]
    constructor
    · intro same
      exact ⟨violation, rfl, same.symm⟩
    · rintro ⟨_, same, isFault⟩
      cases same
      exact isFault.symm

/-- A text is refused for its own sake. -/
theorem ne_duplicateLink_of_text {field value : String} {bounds : Bounds} {violation : Violation}
    (refused : Rule.text field bounds value = .error violation) (text reference : String) :
    violation ≠ .duplicateLink text reference := by
  rintro rfl
  unfold Rule.text at refused
  split at refused
  · cases refused
  · split at refused
    · cases refused
    · split at refused <;> cases refused

theorem ne_duplicateLink_of_linkPart {field value : String} {bounds : Bounds}
    {violation : Violation} (refused : Rule.linkPart field bounds value = .error violation)
    (text reference : String) : violation ≠ .duplicateLink text reference := by
  rcases bind_eq_error_iff.mp refused with refused | ⟨_, -, refused⟩
  · exact ne_duplicateLink_of_text refused text reference
  · rintro rfl
    split at refused <;> cases refused

theorem ne_duplicateLink_of_link {part name : String} {violation : Violation}
    (refused : Link.create part name = .error violation) (text reference : String) :
    violation ≠ .duplicateLink text reference := by
  rcases bind_eq_error_iff.mp refused with refused | ⟨_, -, rest⟩
  · exact ne_duplicateLink_of_linkPart refused text reference
  · rcases bind_eq_error_iff.mp rest with refused | ⟨_, -, made⟩
    · exact ne_duplicateLink_of_linkPart refused text reference
    · cases made

theorem ne_duplicateLink_of_passage {title content : String} {violation : Violation}
    (refused : Passage.create title content = .error violation) (text reference : String) :
    violation ≠ .duplicateLink text reference := by
  rcases bind_eq_error_iff.mp refused with refused | ⟨_, -, rest⟩
  · exact ne_duplicateLink_of_text refused text reference
  · rcases bind_eq_error_iff.mp rest with refused | ⟨_, -, made⟩
    · rcases bind_eq_error_iff.mp refused with refused | ⟨_, -, refused⟩
      · exact ne_duplicateLink_of_text refused text reference
      · rintro rfl
        split at refused <;> cases refused
    · cases made

/-! ## Lines that are refused as they are read -/

theorem seenIn_of_malformed {α : Type} {reason : Malformation} (member : line ∈ lines)
    (refused : (malformed line reason : Except Fault α) = .error fault) : fault.SeenIn lines := by
  cases refused
  rw [Fault.SeenIn, Cause.SeenAt, String.toList_ofList]
  exact member

theorem linkShaped_of_linkParts? {text first second : List Char}
    (parts : linkParts? text = some (first, second)) : LinkShaped text first second := by
  rcases Text.exists_trimEnd_blank text with ⟨after, blank, split⟩
  rw [trimEnd_of_linkParts? parts] at split
  exact ⟨after, blank, split⟩

theorem seenIn_of_readLink (member : line ∈ lines) (refused : readLink line = .error fault) :
    fault.SeenIn lines := by
  rw [readLink] at refused
  split at refused
  · exact seenIn_of_malformed member refused
  · next text reference parts =>
    rcases obeyingAt_eq_error_iff.mp refused with ⟨violation, broken, rfl⟩
    have shaped := linkShaped_of_linkParts? parts
    rw [← String.toList_ofList (l := text), ← String.toList_ofList (l := reference)] at shaped
    constructor
    · exact .link member shaped (.inl broken)
    · intro first second same
      exact absurd same (ne_duplicateLink_of_link broken first second)

theorem seenIn_of_readActions (member : line ∈ lines) (areActions : line.isActions = true)
    (refused : readActions line = .error fault) : fault.SeenIn lines := by
  rw [readActions] at refused
  split at refused
  · exact seenIn_of_malformed member refused
  · split at refused
    · cases refused
    · cases refused
      exact ⟨line.text, member, of_decide_eq_true areActions⟩

theorem seenIn_of_readAttributes {attributes : Attributes} {rest : List Line}
    (members : ∀ line ∈ rest, line ∈ lines)
    (refused : readAttributes attributes rest = .error fault) : fault.SeenIn lines := by
  induction rest generalizing attributes with
  | nil => cases refused
  | cons line rest ih =>
    rcases List.forall_mem_cons.mp members with ⟨member, others⟩
    rw [readAttributes] at refused
    split at refused
    · split at refused
      · exact ih others refused
      · exact seenIn_of_malformed member refused
    · split at refused
      · exact ih others refused
      · cases refused

/-! ## Links that are refused later -/

/-- Says that every link of the passage has its line among these. -/
def HasLines (passed : List Line) (passage : Passage) : Prop :=
  ∀ link ∈ passage.links, ∃ earlier ∈ passed, LinkLine earlier.text link.key

/-- Says that the links of a passage have their lines among these, up to the link that is
pending: it has its line there too, and those of the others are before it. -/
def HasLinesUpTo (passed : List Line) (passage : Passage) : Option Pending → Prop
  | none => HasLines passed passage
  | some pending => ∃ before after, passed = before ++ pending.line :: after ∧
      HasLines before passage ∧ LinkLine pending.line.text pending.link.key

theorem HasLines.of_subset {passed more : List Line} {passage : Passage}
    (hasLines : HasLines passed passage) (subset : passed ⊆ more) : HasLines more passage := by
  intro link member
  rcases hasLines link member with ⟨earlier, isEarlier, isLink⟩
  exact ⟨earlier, subset isEarlier, isLink⟩

/-- When a link is put on its passage, its line is among those of the passage's links. -/
theorem hasLines_of_attach {passed : List Line} {passage after : Passage}
    {pending : Option Pending} (upTo : HasLinesUpTo passed passage pending)
    (attached : attach passage pending = .ok after) : HasLines passed after := by
  cases pending with
  | none =>
    cases attached
    exact upTo
  | some pending =>
    rcases upTo with ⟨before, rest, rfl, hasLines, isLink⟩
    rw [attach, obeyingAt_eq_ok_iff, Passage.addLink] at attached
    split at attached
    · cases attached
    · cases attached
      intro link member
      rcases List.mem_append.mp member with present | added
      · exact hasLines.of_subset (List.subset_append_left before _) link present
      · rw [List.mem_singleton.mp added]
        exact ⟨pending.line, List.mem_append_right before List.mem_cons_self, isLink⟩

variable {header content : Line} {behind : List Line}

/-- A link that is on the passage already has its line further up. -/
theorem seenIn_of_attach {passed rest : List Line} {passage : Passage} {pending : Option Pending}
    (block : HasContent lines header content (passed ++ rest)) (ordered : Ordered lines)
    (upTo : HasLinesUpTo passed passage pending) (refused : attach passage pending = .error fault) :
    fault.SeenIn lines := by
  cases pending with
  | none => cases refused
  | some pending =>
    rcases upTo with ⟨before, after, rfl, hasLines, isLink⟩
    rcases obeyingAt_eq_error_iff.mp refused with ⟨violation, broken, rfl⟩
    rw [Passage.addLink] at broken
    split at broken
    · next taken =>
      cases broken
      rcases List.mem_map.mp (Passage.hasLink_iff.mp taken) with ⟨link, present, sameKey⟩
      rcases hasLines link present with ⟨earlier, isEarlier, isEarlierLink⟩
      rw [sameKey] at isEarlierLink
      have isPending : pending.line ∈ before ++ pending.line :: after ++ rest :=
        List.mem_append_left rest (List.mem_append_right before List.mem_cons_self)
      have earlierMember : earlier ∈ before ++ pending.line :: after ++ rest :=
        List.mem_append_left rest (List.mem_append_left _ isEarlier)
      have sooner : earlier.number < pending.line.number := by
        have inOrder := (List.pairwise_append.mp (block.ordered ordered)).1
        exact (List.pairwise_append.mp inOrder).2.2 earlier isEarlier pending.line
          List.mem_cons_self
      have shaped : LinkShaped pending.line.text pending.link.text.toList
          pending.link.reference.toList := by
        rcases pending with ⟨⟨number, text⟩, ⟨key, actions⟩, hasActions⟩
        cases isLink with
        | link isText isReference blank => exact ⟨_, blank, rfl⟩
      constructor
      · exact .link (block.mem isPending) shaped (.inr rfl)
      · intro text reference same
        cases same
        exact ⟨header, content, _, block, earlier, earlierMember, pending.line, isPending, rfl,
          sooner, isEarlierLink, isLink⟩
    · cases broken

/-- The lines behind the content are refused for what is seen at them.  The induction is on
the lines that are left, and a link that is pending has its line among those that have
been passed. -/
theorem seenIn_of_readLinks {passed rest : List Line} {passage : Passage}
    {pending : Option Pending} (block : HasContent lines header content (passed ++ rest))
    (ordered : Ordered lines) (upTo : HasLinesUpTo passed passage pending)
    (refused : readLinks passage pending rest = .error fault) : fault.SeenIn lines := by
  induction rest generalizing passed passage pending with
  | nil =>
    rw [readLinks] at refused
    exact seenIn_of_attach block ordered upTo refused
  | cons line rest ih =>
    have member : line ∈ lines := block.mem (List.mem_append_right passed List.mem_cons_self)
    have further : HasContent lines header content ((passed ++ [line]) ++ rest) := by
      rw [List.append_assoc]
      exact block
    cases areActions : line.isActions with
    | false =>
      rw [readLinks_cons_link areActions] at refused
      rcases bind_eq_error_iff.mp refused with late | ⟨attached, attaches, refused⟩
      · exact seenIn_of_attach block ordered upTo late
      · rcases bind_eq_error_iff.mp refused with noLink | ⟨link, read, refused⟩
        · exact seenIn_of_readLink member noLink
        · rcases readLink_eq_ok_iff.mp read with ⟨key, isLink, rfl⟩
          apply ih further _ refused
          exact ⟨passed, [], rfl, hasLines_of_attach upTo attaches, isLink⟩
    | true =>
      cases pending with
      | none =>
        unfold readLinks at refused
        rw [if_pos areActions] at refused
        exact seenIn_of_malformed member refused
      | some pending =>
        rcases pending with ⟨first, link, _ | _⟩
        · rw [readLinks_cons_actions areActions] at refused
          rcases bind_eq_error_iff.mp refused with noActions | ⟨actions, read, refused⟩
          · exact seenIn_of_readActions member areActions noActions
          · apply ih further _ refused
            rcases upTo with ⟨before, after, rfl, hasLines, isLink⟩
            refine ⟨before, after ++ [line], ?_, hasLines, isLink⟩
            rw [List.append_assoc, List.cons_append]
        · unfold readLinks at refused
          rw [if_pos areActions] at refused
          exact seenIn_of_malformed member refused

/-! ## Blocks -/

/-- A block is refused for what is seen at its header or further down in it. -/
theorem seenIn_of_read {block : Block} (member : block ∈ blocks lines) (ordered : Ordered lines)
    (refused : block.read = .error fault) : fault.SeenIn lines := by
  rcases part_of_mem_blocks member with ⟨part, continues⟩
  rcases block with ⟨⟨number, header⟩, body⟩
  have headerMember : ⟨number, header⟩ ∈ lines := part.subset List.mem_cons_self
  rw [Block.read] at refused
  split at refused
  · exact seenIn_of_malformed headerMember refused
  · next title stripped =>
    dsimp only at stripped part continues
    rw [stripOpening?_eq_some_iff] at stripped
    have isHeader : Line.isHeader ⟨number, header⟩ = true := by
      rw [Line.isHeader, List.isPrefixOf_iff_prefix, stripped]
      exact List.prefix_append headerMark title
    have isBlock : IsBlockOf lines ⟨number, header⟩ body := ⟨isHeader, continues, part⟩
    rw [stripped, ← String.toList_ofList (l := title)] at isBlock headerMember
    rcases bind_eq_error_iff.mp refused with onAttribute | ⟨⟨attributes, rest⟩, read, refused⟩
    · exact seenIn_of_readAttributes (fun _ => isBlock.body_mem) onAttribute
    · rcases attributeLines_of_readAttributes read with ⟨taken, said, rfl, areAttributes, -⟩
      cases rest with
      | nil =>
        cases refused
        exact headerMember
      | cons content behind =>
        have hasContent : HasContent lines ⟨number, headerMark ++ (String.ofList title).toList⟩
            content behind := ⟨taken, said, isBlock, areAttributes⟩
        rcases bind_eq_error_iff.mp refused with noPassage | ⟨passage, created, refused⟩
        · rcases obeyingAt_eq_error_iff.mp noPassage with ⟨violation, broken, rfl⟩
          constructor
          · exact .passage hasContent broken
          · intro text reference same
            exact absurd same (ne_duplicateLink_of_passage broken text reference)
        · rw [obeyingAt_eq_ok_iff, Passage.create_eq_ok_iff] at created
          rcases created with ⟨-, -, rfl⟩
          have nothingPassed : HasContent lines ⟨number, headerMark ++ (String.ofList title).toList⟩
              content ([] ++ behind) := hasContent
          apply seenIn_of_readLinks nothingPassed ordered _ refused
          intro link onPassage
          cases onPassage

/-- A passage that is read has its title in the header. -/
theorem header_of_read {block : Block} {passage : Passage} (read : block.read = .ok passage) :
    block.header.text = headerMark ++ passage.title.toList := by
  have areLines := block_read_eq_ok_iff.mp read
  generalize split : block.header.text :: block.body.map Line.text = texts at areLines
  induction areLines with
  | passage => exact (List.cons.inj split).1

end

/-! ## Stories -/

/-- Says that every passage of the story has its header among these lines. -/
def HasHeaders (headers : List Line) (story : Story) : Prop :=
  ∀ title ∈ story.titles, ∃ header ∈ headers, header.text = headerMark ++ title.toList

/-- The passages behind the opening are refused for what is seen in their blocks, or for
a title that has its header further up. -/
theorem seenIn_of_readStored {lines : List Line} {fault : Fault} {passed : List Line}
    {story : Story} (keyed : story.KeyedByTitle) {rest : List Block}
    (members : ∀ block ∈ rest, block ∈ blocks lines)
    (ordered : Ordered lines) (headers : (passed ++ rest.map Block.header).Sublist lines)
    (hasHeaders : HasHeaders passed story) (refused : readStored story rest = .error fault) :
    fault.SeenIn lines := by
  induction rest generalizing passed story with
  | nil => cases refused
  | cons block rest ih =>
    rcases List.forall_mem_cons.mp members with ⟨member, others⟩
    rw [readStored] at refused
    rcases bind_eq_error_iff.mp refused with inBlock | ⟨passage, read, refused⟩
    · exact seenIn_of_read member ordered inBlock
    · have title := header_of_read read
      split at refused
      · next taken =>
        cases refused
        rcases hasHeaders _ ((Story.add?_eq_none_iff keyed).mp taken) with
          ⟨header, isHeader, sameTitle⟩
        have here : block.header ∈ passed ++ (block :: rest).map Block.header :=
          List.mem_append_right passed List.mem_cons_self
        have sooner : header.number < block.header.number := by
          have inOrder := List.pairwise_append.mp (ordered.sublist headers)
          exact inOrder.2.2 header isHeader block.header List.mem_cons_self
        constructor
        · rw [← title]
          exact headers.subset here
        · refine ⟨header.number, sooner, ?_⟩
          rw [← sameTitle]
          exact headers.subset (List.mem_append_left _ isHeader)
      · next story added =>
        have further : ((passed ++ [block.header]) ++ rest.map Block.header).Sublist lines := by
          rw [List.append_assoc]
          exact headers
        have titles := Story.titles_of_add? keyed added
        apply ih (Story.keyedByTitle_of_add? keyed added) others further _ refused
        intro name isTitle
        rcases List.mem_cons.mp (titles.mem_iff.mp isTitle) with new | old
        · refine ⟨block.header, List.mem_append_right passed List.mem_cons_self, ?_⟩
          rw [new, title]
        · rcases hasHeaders name old with ⟨header, isHeader, sameTitle⟩
          exact ⟨header, List.mem_append_left _ isHeader, sameTitle⟩

/-- A story is refused for its opening, for its title, or for another passage, in this
order. -/
theorem seenIn_of_blocks {lines : List Line} {fault : Fault} {title : List Char} {block : Block}
    {rest : List Block} (first : ⟨1, title⟩ ∈ lines)
    (members : ∀ other ∈ block :: rest, other ∈ blocks lines) (ordered : Ordered lines)
    (headers : ((block :: rest).map Block.header).Sublist lines)
    (refused : (do
      let opening ← block.read
      let story ← obeyingAt ⟨1, title⟩ (Story.create (String.ofList title) opening)
      readStored story rest) = .error fault) :
    fault.SeenIn lines := by
  rcases List.forall_mem_cons.mp members with ⟨member, others⟩
  rcases bind_eq_error_iff.mp refused with inBlock | ⟨opening, read, refused⟩
  · exact seenIn_of_read member ordered inBlock
  · rcases bind_eq_error_iff.mp refused with noTitle | ⟨story, created, refused⟩
    · rcases obeyingAt_eq_error_iff.mp noTitle with ⟨violation, notMade, rfl⟩
      rcases bind_eq_error_iff.mp notMade with broken | ⟨_, -, made⟩
      · constructor
        · refine .title rfl ?_ broken
          rw [String.toList_ofList]
          exact first
        · intro text reference same
          exact absurd same (ne_duplicateLink_of_text broken text reference)
      · cases made
    · rw [obeyingAt_eq_ok_iff, Story.create_eq_ok_iff] at created
      rcases created with ⟨-, rfl⟩
      have onePassed : ([block.header] ++ rest.map Block.header).Sublist lines := headers
      have begun := Story.keyedByTitle_filing (String.ofList title) opening []
      apply seenIn_of_readStored begun others ordered onePassed _ refused
      intro name isTitle
      rw [List.mem_singleton.mp isTitle]
      exact ⟨block.header, List.mem_cons_self, header_of_read read⟩

/-- A fault that is seen at a line points into the text. -/
theorem pointsInto_of_seenIn {texts : List (List Char)} {fault : Fault}
    (seen : fault.SeenIn (numberFrom 1 texts)) : fault.PointsInto texts := by
  rw [Fault.PointsInto]
  rw [Fault.SeenIn] at seen
  split
  · next cause =>
    rw [cause] at seen
    exact seen.elim
  · next cause =>
    rw [cause] at seen
    exact seen.elim
  · exact seen

/-- The line with the title and the blank one below it are a block and none. -/
theorem blocks_behind_title {title second : List Char} (texts : List (List Char))
    (solid : Text.isBlank title = false) (blank : Text.isBlank second = true) :
    blocks (numberFrom 1 (title :: second :: texts)) =
      ⟨⟨1, title⟩, []⟩ :: blocks (numberFrom 3 texts) := by
  have stops : ∀ line, (numberFrom 2 (second :: texts)).head? = some line →
      line.continuesBlock = false := by
    rintro line ⟨⟩
    rw [Line.continuesBlock, Line.isBlank, blank]
    rfl
  have opened : blocks (⟨1, title⟩ :: ([] ++ numberFrom 2 (second :: texts))) = _ :=
    blocks_append solid (List.forall_mem_nil _) stops
  rw [numberFrom]
  rw [List.nil_append] at opened
  rw [opened, numberFrom, blocks, if_pos (show Line.isBlank ⟨2, second⟩ = true from blank)]

theorem pointsInto_of_readLines {texts : List (List Char)} {fault : Fault}
    (refused : readLines texts = .error fault) : fault.PointsInto texts := by
  unfold readLines at refused
  split at refused
  · cases refused
    refine ⟨rfl, ?_⟩
    intro text none
    cases none
  · next title texts =>
    split at refused
    · next blank =>
      cases refused
      refine ⟨rfl, ?_⟩
      intro text first
      cases first
      exact blank
    · next solid =>
      rw [Bool.not_eq_true] at solid
      split at refused
      · cases refused
        exact ⟨rfl, List.forall_mem_nil _⟩
      · next second texts =>
        have ordered := ordered_numberFrom 1 (title :: second :: texts)
        split at refused
        · apply pointsInto_of_seenIn
          apply seenIn_of_malformed _ refused
          exact List.mem_cons_of_mem _ List.mem_cons_self
        · next notSolid =>
          have blank : Text.isBlank second = true := by
            rwa [Bool.not_eq_true, Bool.not_eq_false'] at notSolid
          have allBlocks := blocks_behind_title texts solid blank
          split at refused
          · next none =>
            cases refused
            refine ⟨rfl, ?_⟩
            rw [List.tail_cons, List.forall_mem_cons]
            refine ⟨blank, ?_⟩
            intro text member
            rcases List.mem_iff_getElem?.mp member with ⟨index, found⟩
            have numbered : (⟨3 + index, text⟩ : Line) ∈ numberFrom 3 texts :=
              mem_numberFrom_iff.mpr ⟨index, rfl, found⟩
            exact isBlank_of_blocks_nil none numbered
          · next block rest cut =>
            rw [cut] at allBlocks
            have first : (⟨1, title⟩ : Line) ∈ numberFrom 1 (title :: second :: texts) :=
              List.mem_cons_self
            apply pointsInto_of_seenIn
            apply seenIn_of_blocks first _ ordered _ refused
            · intro other member
              rw [allBlocks]
              exact List.mem_cons_of_mem _ member
            · have headers := headers_sublist (numberFrom 1 (title :: second :: texts))
              rw [allBlocks] at headers
              exact (List.sublist_cons_self _ _).trans headers

end Script

/-- A text that is no script is refused at a line that is to blame: it is one of the lines
of the text, or the one behind the last when an opening is missing, and what the fault is
about is to be seen there. -/
theorem ofScript_error_pointsInto {source : String} {fault : Script.Fault}
    (refused : Story.ofScript source = .error fault) :
    1 ≤ fault.line ∧ fault.line ≤ (Text.lines source.toList).length + 1 ∧
      fault.PointsInto (Text.lines source.toList) := by
  have points := Script.pointsInto_of_readLines refused
  exact ⟨points.bounds.1, points.bounds.2, points⟩

/-- A script whose lines have different endings, with blank lines before its passage, and
with a link that is given twice. -/
def twice : String :=
  "Ferry\r\n \n\n::Quay\n@mood CALM\nA boat.\n" ++
    "[Pay](Boat)\n\x7bG:-5\x7d\n[Pay](Boat) \n[Wait](Quay)\n"

/-- The link is refused at its own line, although the next one had been read by then. -/
theorem ofScript_error_pointsInto_twice :
    Story.ofScript twice = .error ⟨9, .invalid (.duplicateLink "Pay" "Boat")⟩ ∧
      Script.RepeatsLink (Script.numberFrom 1 (Text.lines twice.toList)) 9 ⟨"Pay", "Boat"⟩ := by
  have refused : Story.ofScript twice = .error ⟨9, .invalid (.duplicateLink "Pay" "Boat")⟩ := by
    decide +kernel
  have points := (ofScript_error_pointsInto refused).2.2
  exact ⟨refused, points.2 "Pay" "Boat" rfl⟩

end Gamebook
