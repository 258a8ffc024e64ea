import Mathlib.Data.List.Induction
import Gamebook.Proofs.Script.Grammar
import Gamebook.Proofs.Script.Lines

namespace Gamebook
namespace Script

/-!
# A script is accepted when it follows the grammar

The reader and the grammar are compared level by level: a line, the lines of a
passage, the lines of a story.  At each level the two directions say different
things.  What is read was spelled by the lines that were taken, and lines that
spell something are read as that, however many others follow.

The reader attaches a link only when it has seen the line behind it, so for the
links the comparison is about the lines behind a link that is pending.
-/

/-- A rule that is obeyed at a line is obeyed. -/
@[simp] theorem obeyingAt_eq_ok_iff {α : Type} {line : Line} {result : Except Violation α}
    {value : α} : obeyingAt line result = .ok value ↔ result = .ok value := by
  cases result with
  | ok found => rw [obeyingAt, Except.ok.injEq, Except.ok.injEq]
  | error violation => exact iff_of_false error_ne_ok error_ne_ok

theorem stripOpening?_eq_some_iff {opening cs rest : List Char} :
    Text.stripOpening? opening cs = some rest ↔ cs = opening ++ rest := by
  constructor
  · intro stripped
    induction opening generalizing cs with
    | nil => exact Option.some.inj stripped
    | cons c opening ih =>
      cases cs with
      | nil => cases stripped
      | cons d cs =>
        rw [Text.stripOpening?] at stripped
        split at stripped
        · next same => rw [same, ih stripped, List.cons_append]
        · cases stripped
  · rintro rfl
    exact stripOpening?_append opening rest

/-! ## Attributes -/

/-- Attributes with one more, which replaces what it says anew. -/
def Attributes.give (attributes : Attributes) : Attribute → Attributes
  | .mood given => { attributes with mood := given }
  | .singleVisit => { attributes with singleVisit := true }

theorem foldl_give (attributes : List Attribute) :
    attributes.foldl Attributes.give {} =
      ⟨lastMood attributes, attributes.contains .singleVisit⟩ := by
  induction attributes using List.reverseRecOn with
  | nil => rfl
  | append_singleton attributes said ih =>
    rw [List.foldl_append, ih, List.foldl_cons, List.foldl_nil, lastMood, lastMood,
      List.filterMap_append]
    cases said with
    | mood given => simp [Attributes.give, Attribute.mood?]
    | singleVisit => simp [Attributes.give, Attribute.mood?]

/-- An attribute line is read as what it says. -/
theorem readAttributes_of_attributeLine {line : Line} {said : Attribute}
    (isAttribute : AttributeLine line.text said) (attributes : Attributes) (lines : List Line) :
    readAttributes attributes (line :: lines) = readAttributes (attributes.give said) lines := by
  rcases line with ⟨number, text⟩
  change AttributeLine text said at isAttribute
  -- The marks stay folded when this is an induction and not a case split.
  induction isAttribute with
  | mood blankBefore blankAfter isKey =>
    have known := Mood.ofKey?_eq_some_iff.mpr ⟨_, _, _, blankBefore, blankAfter, isKey, rfl⟩
    rw [readAttributes]
    simp only [stripOpening?_append, known, Attributes.give]
  | @singleVisit after blank =>
    have shape : singleVisitLine = '@' :: 's' :: singleVisitLine.drop 2 := by decide
    have notMood : Text.stripOpening? moodMark (singleVisitLine ++ after) = none := by
      rw [shape, moodMark, List.cons_append, List.cons_append, Text.stripOpening?, if_pos rfl,
        Text.stripOpening?, if_neg (by decide)]
    have trimmed : Text.trimEnd (singleVisitLine ++ after) = singleVisitLine :=
      (Text.trimEnd_eq_iff (by decide)).mpr ⟨after, blank, rfl⟩
    rw [readAttributes]
    simp only [notMood, trimmed, if_true, Attributes.give]

theorem readAttributes_append {lines : List Line} {given : List Attribute}
    (areAttributes : List.Forall₂ AttributeLine (lines.map Line.text) given)
    (attributes : Attributes) (rest : List Line) :
    readAttributes attributes (lines ++ rest) =
      readAttributes (given.foldl Attributes.give attributes) rest := by
  induction lines generalizing given attributes with
  | nil =>
    cases areAttributes
    rfl
  | cons line lines ih =>
    cases areAttributes with
    | cons isAttribute more =>
      rw [List.cons_append, readAttributes_of_attributeLine isAttribute, ih more, List.foldl_cons]

/-- What is read as attributes are attribute lines, and the rest is left. -/
theorem attributeLines_of_readAttributes {lines rest : List Line} {attributes final : Attributes}
    (read : readAttributes attributes lines = .ok (final, rest)) :
    ∃ taken given, lines = taken ++ rest ∧
      List.Forall₂ AttributeLine (taken.map Line.text) given ∧
        final = given.foldl Attributes.give attributes := by
  induction lines generalizing attributes with
  | nil =>
    cases read
    exact ⟨[], [], rfl, .nil, rfl⟩
  | cons line lines ih =>
    have prepend {said : Attribute} (isAttribute : AttributeLine line.text said)
        (more : readAttributes (attributes.give said) lines = .ok (final, rest)) :
        ∃ taken given, line :: lines = taken ++ rest ∧
          List.Forall₂ AttributeLine (taken.map Line.text) given ∧
            final = given.foldl Attributes.give attributes := by
      rcases ih more with ⟨taken, given, split, areAttributes, foldl⟩
      exact ⟨line :: taken, said :: given, congrArg (line :: ·) split,
        .cons isAttribute areAttributes, foldl⟩
    rw [readAttributes] at read
    split at read
    · next key stripped =>
      split at read
      · next mood known =>
        rcases Mood.ofKey?_eq_some_iff.mp known with
          ⟨before, word, after, blankBefore, blankAfter, isKey, rfl⟩
        have isAttribute : AttributeLine line.text (.mood mood) := by
          rw [stripOpening?_eq_some_iff.mp stripped]
          exact .mood blankBefore blankAfter isKey
        exact prepend isAttribute read
      · cases read
    · split at read
      · next trimmed =>
        rcases (Text.trimEnd_eq_iff (by decide)).mp trimmed with ⟨after, blank, text⟩
        have isAttribute : AttributeLine line.text .singleVisit := by
          rw [text]
          exact .singleVisit blank
        exact prepend isAttribute read
      · cases read
        exact ⟨[], [], rfl, .nil, rfl⟩

/-! ## Links -/

theorem splitLink?_eq_some {cs before after : List Char}
    (split : splitLink? cs = some (before, after)) : cs = before ++ ']' :: '(' :: after := by
  induction cs generalizing before with
  | nil => cases split
  | cons c cs ih =>
    unfold splitLink? at split
    split at split
    · next later =>
      cases split
      rw [ih later, List.cons_append]
    · split at split
      · cases split
        rfl
      · cases split

theorem stripLast?_eq_some_iff {last : Char} {cs front : List Char} :
    stripLast? last cs = some front ↔ cs = front ++ [last] := by
  constructor
  · intro stripped
    rw [stripLast?] at stripped
    split at stripped
    · next final =>
      cases stripped
      have nonempty : cs ≠ [] := by
        rintro rfl
        cases final
      rw [List.getLast?_eq_some_getLast nonempty] at final
      exact Option.some.inj final ▸ (List.dropLast_concat_getLast nonempty).symm
    · cases stripped
  · rintro rfl
    exact stripLast?_append last front

/-- The parts of a link enclose the mark between them, and are enclosed by
brackets. -/
theorem trimEnd_of_linkParts? {line text reference : List Char}
    (parts : linkParts? line = some (text, reference)) :
    Text.trimEnd line = '[' :: text ++ [']', '('] ++ reference ++ [')'] := by
  rw [linkParts?] at parts
  split at parts
  · next rest trimmed =>
    split at parts
    · next c inner stripped =>
      rcases Option.map_eq_some_iff.mp parts with ⟨⟨before, after⟩, split, same⟩
      cases same
      rw [trimmed, stripLast?_eq_some_iff.mp stripped, splitLink?_eq_some split]
      simp
    · cases parts
  · cases parts

/-- A link is read from exactly the lines of links. -/
theorem readLink_eq_ok_iff {line : Line} {link : Link} :
    readLink line = .ok link ↔ ∃ key, LinkLine line.text key ∧ link = ⟨key, []⟩ := by
  rcases line with ⟨number, characters⟩
  constructor
  · intro read
    rw [readLink] at read
    split at read
    · cases read
    · next text reference parts =>
      rw [obeyingAt_eq_ok_iff, Link.create_eq_ok_iff] at read
      rcases read with ⟨isText, isReference, rfl⟩
      rcases Text.exists_trimEnd_blank characters with ⟨after, blank, split⟩
      have line := LinkLine.link isText isReference blank
      rw [String.toList_ofList, String.toList_ofList, ← trimEnd_of_linkParts? parts,
        ← split] at line
      exact ⟨_, line, rfl⟩
  · rintro ⟨key, isLink, rfl⟩
    change LinkLine characters key at isLink
    induction isLink with
    | @link text reference after isText isReference blank =>
      have wellFormed : (⟨⟨text, reference⟩, []⟩ : Link).WellFormed :=
        ⟨isText, isReference, List.forall_mem_nil _⟩
      have parts := linkParts?_line wellFormed
      rw [linkParts?, ← Text.trimEnd_append_of_isBlank blank, ← linkParts?] at parts
      change readLink ⟨number, Link.line ⟨⟨text, reference⟩, []⟩ ++ after⟩ = _
      simp only [readLink, parts, String.ofList_toList, obeyingAt_eq_ok_iff]
      exact Link.create_of_wellFormed wellFormed

theorem isActions_of_linkLine {line : Line} {key : LinkKey} (isLink : LinkLine line.text key) :
    line.isActions = false := by
  rcases line with ⟨number, text⟩
  cases isLink
  rw [Line.isActions, Text.trimStart_eq_self_iff.mpr fun c head => by cases head; decide]
  rfl

/-! ## Actions -/

/-- The tokens of pieces are those that are not empty when they are trimmed. -/
def tokensOf (pieces : List (List Char)) : List (List Char) :=
  (pieces.map Text.trim).filter fun token => !token.isEmpty

theorem isBlank_iff_trim_eq_nil {cs : List Char} : Text.isBlank cs = true ↔ Text.trim cs = [] := by
  constructor
  · intro blank
    rw [Text.trim, Text.trimStart_of_isBlank blank]
    rfl
  · intro trimmed
    rcases Text.exists_blank_trim_blank cs with ⟨before, after, blankBefore, blankAfter, split⟩
    rw [split, trimmed, List.nil_append, Text.isBlank_append, blankBefore, blankAfter]
    rfl

theorem tokensOf_cons_of_isBlank {piece : List Char} (blank : Text.isBlank piece = true)
    (pieces : List (List Char)) : tokensOf (piece :: pieces) = tokensOf pieces := by
  rw [tokensOf, List.map_cons, isBlank_iff_trim_eq_nil.mp blank]
  rfl

theorem tokensOf_cons {piece : List Char} (solid : Text.isBlank piece = false)
    (pieces : List (List Char)) :
    tokensOf (piece :: pieces) = Text.trim piece :: tokensOf pieces := by
  have nonempty : (Text.trim piece).isEmpty = false := by
    rw [List.isEmpty_eq_false_iff]
    intro empty
    rw [isBlank_iff_trim_eq_nil.mpr empty] at solid
    cases solid
  rw [tokensOf, List.map_cons, List.filter_cons, nonempty]
  rfl

/-- The tokens that are read are short forms, and the pieces without a token are
empty. -/
theorem actionPieces_iff {pieces : List (List Char)} {actions : List Action} :
    readTokens (tokensOf pieces) = .ok actions ↔
      ∃ read, List.Forall₂ ActionPiece pieces read ∧ read.reduceOption = actions := by
  induction pieces generalizing actions with
  | nil =>
    constructor
    · rintro ⟨⟩
      exact ⟨[], .nil, rfl⟩
    · rintro ⟨read, arePieces, rfl⟩
      cases arePieces
      rfl
  | cons piece pieces ih =>
    cases blank : Text.isBlank piece with
    | true =>
      rw [tokensOf_cons_of_isBlank blank, ih]
      constructor
      · rintro ⟨read, arePieces, rfl⟩
        exact ⟨none :: read, .cons (.empty blank) arePieces, List.reduceOption_cons_of_none read⟩
      · rintro ⟨read, arePieces, rfl⟩
        cases arePieces with
        | cons isPiece arePieces =>
          cases isPiece with
          | empty => exact ⟨_, arePieces, (List.reduceOption_cons_of_none _).symm⟩
          | action isShort =>
            rw [isBlank_iff_trim_eq_nil.mp blank] at isShort
            cases isShort
    | false =>
      rw [tokensOf_cons blank, readTokens, bind_eq_ok_iff]
      constructor
      · rintro ⟨action, isShort, rest⟩
        rcases bind_eq_ok_iff.mp rest with ⟨more, readMore, same⟩
        cases same
        rcases ih.mp readMore with ⟨read, arePieces, rfl⟩
        exact ⟨some action :: read, .cons (.action isShort) arePieces,
          List.reduceOption_cons_of_some action read⟩
      · rintro ⟨read, arePieces, rfl⟩
        cases arePieces with
        | cons isPiece arePieces =>
          cases isPiece with
          | empty blank' => rw [blank'] at blank; cases blank
          | action isShort =>
            refine ⟨_, isShort, ?_⟩
            rw [ih.mpr ⟨_, arePieces, rfl⟩, ok_bind, List.reduceOption_cons_of_some]

/-- The tokens of a line are those between its braces. -/
theorem actionTokens?_eq_some_iff {text : List Char} {tokens : List (List Char)} :
    actionTokens? text = some tokens ↔
      ∃ inner, Text.trim text = '\x7b' :: inner ++ ['\x7d'] ∧
        tokens = tokensOf (Text.pieces ',' inner) := by
  rw [actionTokens?]
  constructor
  · intro found
    split at found
    · next rest trimmed =>
      rcases Option.map_eq_some_iff.mp found with ⟨inner, stripped, same⟩
      rw [stripLast?_eq_some_iff] at stripped
      exact ⟨inner, trimmed.trans (congrArg ('\x7b' :: ·) stripped), same.symm⟩
    · cases found
  · rintro ⟨inner, trimmed, rfl⟩
    rw [trimmed, List.cons_append]
    simp only [stripLast?_append, Option.map_some]
    rfl

/-- Actions are read from exactly the lines of actions. -/
theorem readActions_eq_ok_iff {line : Line} {actions : List Action} :
    readActions line = .ok actions ↔ ActionLine line.text actions := by
  rcases line with ⟨number, text⟩
  have reads : readActions ⟨number, text⟩ = .ok actions ↔
      ∃ tokens, actionTokens? text = some tokens ∧ readTokens tokens = .ok actions := by
    rw [readActions]
    cases actionTokens? text with
    | none =>
      refine iff_of_false error_ne_ok ?_
      rintro ⟨_, found, _⟩
      cases found
    | some tokens =>
      simp only [Option.some.injEq, exists_eq_left']
      cases readTokens tokens with
      | ok read => simp only [Except.ok.injEq]
      | error error => exact iff_of_false error_ne_ok error_ne_ok
  rw [reads]
  constructor
  · rintro ⟨tokens, found, read⟩
    rcases actionTokens?_eq_some_iff.mp found with ⟨inner, trimmed, rfl⟩
    rcases actionPieces_iff.mp read with ⟨given, arePieces, rfl⟩
    rcases Text.exists_blank_trim_blank text with ⟨before, after, blankBefore, blankAfter, split⟩
    have line := ActionLine.actions blankBefore blankAfter
      (fun piece member => Text.not_mem_of_mem_pieces member) arePieces
    rw [Text.join_pieces, ← trimmed, ← split] at line
    exact line
  · intro areActions
    change ActionLine text actions at areActions
    induction areActions with
    | @actions before after pieces read blankBefore blankAfter apart arePieces =>
      refine ⟨_, actionTokens?_eq_some_iff.mpr ⟨Text.join [','] pieces, ?_, rfl⟩, ?_⟩
      · exact (Text.trim_eq_iff (Text.trim_enclosed _ (by decide) (by decide))).mpr
          ⟨before, after, blankBefore, blankAfter, rfl⟩
      · cases pieces with
        | nil =>
          cases arePieces
          rfl
        | cons piece pieces =>
          rw [Text.pieces_join (List.cons_ne_nil piece pieces) apart]
          exact actionPieces_iff.mpr ⟨read, arePieces, rfl⟩

theorem isActions_of_actionLine {line : Line} {actions : List Action}
    (areActions : ActionLine line.text actions) : line.isActions = true := by
  rcases line with ⟨number, text⟩
  change ActionLine text actions at areActions
  induction areActions with
  | @actions before after pieces read blankBefore =>
    have start := Text.trimStart_append_of_isBlank blankBefore
      ('\x7b' :: Text.join [','] pieces ++ ['\x7d'] ++ after)
    rw [Line.isActions, start]
    rfl

/-! ## The lines of links -/

/-- What may stand behind a link that is pending: its actions, if it has none
yet, and more links.  The links are listed from the pending one on. -/
inductive LinksBehind (pending : Pending) : List (List Char) → List Link → Prop
  | links {lines : List (List Char)} {links : List Link} (areLinks : LinkLines lines links) :
      LinksBehind pending lines (pending.link :: links)
  | actions {actionLine : List Char} {lines : List (List Char)} {actions : List Action}
      {links : List Link} (free : pending.hasActions = false)
      (areActions : ActionLine actionLine actions) (areLinks : LinkLines lines links) :
      LinksBehind pending (actionLine :: lines)
        (pending.link.withActions (pending.link.actions ++ actions) :: links)

/-- Behind a link that has its actions there are only more links. -/
theorem linksBehind_full_iff {line : Line} {link : Link} {lines : List (List Char)}
    {links : List Link} :
    LinksBehind ⟨line, link, true⟩ lines links ↔
      ∃ more, links = link :: more ∧ LinkLines lines more := by
  constructor
  · intro behind
    cases behind with
    | links areLinks => exact ⟨_, rfl, areLinks⟩
    | actions free => cases free
  · rintro ⟨more, rfl, areLinks⟩
    exact .links areLinks

/-- The lines of links open with the line of a link, behind which that link is
pending. -/
theorem linkLines_cons_iff {line : Line} {lines : List (List Char)} {links : List Link} :
    LinkLines (line.text :: lines) links ↔
      ∃ link, readLink line = .ok link ∧ LinksBehind ⟨line, link, false⟩ lines links := by
  constructor
  · intro areLinks
    cases areLinks with
    | bare isLink more => exact ⟨_, readLink_eq_ok_iff.mpr ⟨_, isLink, rfl⟩, .links more⟩
    | acting isLink areActions more =>
      exact ⟨_, readLink_eq_ok_iff.mpr ⟨_, isLink, rfl⟩, .actions rfl areActions more⟩
  · rintro ⟨link, read, behind⟩
    rcases readLink_eq_ok_iff.mp read with ⟨key, isLink, rfl⟩
    cases behind with
    | links more => exact .bare isLink more
    | actions free areActions more => exact .acting isLink areActions more

/-- A line of actions opens no lines of links. -/
theorem not_linkLines_of_isActions {line : Line} (areActions : line.isActions = true)
    {lines : List (List Char)} {links : List Link} : ¬ LinkLines (line.text :: lines) links := by
  intro areLinks
  rcases linkLines_cons_iff.mp areLinks with ⟨link, read, -⟩
  rcases readLink_eq_ok_iff.mp read with ⟨key, isLink, -⟩
  rw [isActions_of_linkLine isLink] at areActions
  cases areActions

/-- Behind a pending link the reader takes the links that the lines spell, and
puts them on the passage in their order. -/
theorem readLinks_pending_iff {passage final : Passage} {pending : Pending} {lines : List Line} :
    readLinks passage (some pending) lines = .ok final ↔
      ∃ links, LinksBehind pending (lines.map Line.text) links ∧
        passage.addLinks links = .ok final := by
  induction lines generalizing passage pending with
  | nil =>
    rw [readLinks, attach, obeyingAt_eq_ok_iff]
    have single : passage.addLinks [pending.link] = passage.addLink pending.link := by
      rw [Passage.addLinks]
      cases passage.addLink pending.link <;> rfl
    constructor
    · intro attached
      exact ⟨[pending.link], .links .nil, single.trans attached⟩
    · rintro ⟨links, behind, added⟩
      cases behind with
      | links areLinks =>
        cases areLinks
        exact single.symm.trans added
  | cons line lines ih =>
    cases areActions : line.isActions with
    | false =>
      rw [readLinks_cons_link areActions, bind_eq_ok_iff]
      constructor
      · rintro ⟨attached, attach_eq, rest⟩
        rcases bind_eq_ok_iff.mp rest with ⟨link, read, more⟩
        rcases ih.mp more with ⟨links, behind, added⟩
        rw [attach, obeyingAt_eq_ok_iff] at attach_eq
        refine ⟨_, .links (linkLines_cons_iff.mpr ⟨link, read, behind⟩), ?_⟩
        rw [Passage.addLinks, attach_eq, ok_bind, added]
      · rintro ⟨links, behind, added⟩
        cases behind with
        | links areLinks =>
          rcases linkLines_cons_iff.mp areLinks with ⟨link, read, behind⟩
          rcases bind_eq_ok_iff.mp added with ⟨attached, attach_eq, more⟩
          refine ⟨attached, obeyingAt_eq_ok_iff.mpr attach_eq, ?_⟩
          rw [read, ok_bind]
          exact ih.mpr ⟨_, behind, more⟩
        | actions free isActionLine =>
          rw [isActions_of_actionLine isActionLine] at areActions
          cases areActions
    | true =>
      rcases pending with ⟨first, link, _ | _⟩
      · rw [readLinks_cons_actions areActions, bind_eq_ok_iff]
        constructor
        · rintro ⟨actions, read, more⟩
          rcases ih.mp more with ⟨links, behind, added⟩
          rcases linksBehind_full_iff.mp behind with ⟨others, rfl, areLinks⟩
          exact ⟨_, .actions rfl (readActions_eq_ok_iff.mp read) areLinks, added⟩
        · rintro ⟨links, behind, added⟩
          cases behind with
          | links areLinks => exact absurd areLinks (not_linkLines_of_isActions areActions)
          | actions free isActionLine areLinks =>
            exact ⟨_, readActions_eq_ok_iff.mpr isActionLine, ih.mpr ⟨_, .links areLinks, added⟩⟩
      · unfold readLinks
        simp only [areActions, if_true]
        refine iff_of_false error_ne_ok ?_
        rintro ⟨links, behind, -⟩
        rcases linksBehind_full_iff.mp behind with ⟨others, rfl, areLinks⟩
        exact not_linkLines_of_isActions areActions areLinks

/-- The lines behind a passage's content are read when they are the lines of
links that can all be put on the passage. -/
theorem readLinks_eq_ok_iff {passage final : Passage} {lines : List Line} :
    readLinks passage none lines = .ok final ↔
      ∃ links, LinkLines (lines.map Line.text) links ∧ passage.addLinks links = .ok final := by
  cases lines with
  | nil =>
    rw [readLinks, attach, Except.ok.injEq]
    constructor
    · rintro rfl
      exact ⟨[], .nil, by rw [Passage.addLinks]⟩
    · rintro ⟨links, areLinks, added⟩
      cases areLinks
      rw [Passage.addLinks] at added
      exact Except.ok.inj added
  | cons line lines =>
    rw [List.map_cons]
    cases areActions : line.isActions with
    | false =>
      rw [readLinks_cons_link areActions, attach, ok_bind, bind_eq_ok_iff]
      simp only [readLinks_pending_iff, linkLines_cons_iff]
      constructor
      · rintro ⟨link, read, links, behind, added⟩
        exact ⟨links, ⟨link, read, behind⟩, added⟩
      · rintro ⟨links, ⟨link, read, behind⟩, added⟩
        exact ⟨link, read, links, behind, added⟩
    | true =>
      unfold readLinks
      simp only [areActions, if_true]
      refine iff_of_false error_ne_ok ?_
      rintro ⟨links, areLinks, -⟩
      exact not_linkLines_of_isActions areActions areLinks

/-! ## The lines of a passage -/

/-- A block is read when its lines are those of a passage. -/
theorem block_read_eq_ok_iff {block : Block} {passage : Passage} :
    block.read = .ok passage ↔
      PassageLines (block.header.text :: block.body.map Line.text) passage := by
  rcases block with ⟨⟨number, header⟩, body⟩
  constructor
  · intro read
    rw [Block.read] at read
    split at read
    · cases read
    · next title stripped =>
      rcases bind_eq_ok_iff.mp read with ⟨⟨attributes, rest⟩, readAttributes, more⟩
      rcases attributeLines_of_readAttributes readAttributes with
        ⟨taken, given, rfl, areAttributes, rfl⟩
      cases rest with
      | nil => cases more
      | cons content lines =>
        rcases bind_eq_ok_iff.mp more with ⟨created, create_eq, readLinks⟩
        rw [obeyingAt_eq_ok_iff, Passage.create_eq_ok_iff] at create_eq
        rcases create_eq with ⟨isTitle, isContent, rfl⟩
        rcases readLinks_eq_ok_iff.mp readLinks with ⟨links, areLinks, added⟩
        rcases (Passage.addLinks_eq_ok_iff (by exact .nil)).mp added with ⟨distinct, rfl⟩
        have lines := PassageLines.passage isTitle areAttributes isContent areLinks distinct
        rw [String.toList_ofList, String.toList_ofList, ← stripOpening?_eq_some_iff.mp stripped]
          at lines
        rw [List.map_append, List.map_cons, foldl_give]
        exact lines
  · intro areLines
    change PassageLines (header :: body.map Line.text) passage at areLines
    generalize split : header :: body.map Line.text = lines at areLines
    induction areLines with
    | @passage title content attributeLines linkLines attributes links isTitle areAttributes
        isContent areLinks distinct =>
      rcases List.cons.inj split with ⟨rfl, bodySplit⟩
      rcases List.map_eq_append_iff.mp bodySplit with ⟨taken, rest, rfl, rfl, restSplit⟩
      rcases List.map_eq_cons_iff.mp restSplit with ⟨contentLine, others, rfl, isLine, rfl⟩
      have noMark : contentLine.text.head? ≠ some '@' := isLine ▸ (content_opening isContent).1
      have attributesRead := (readAttributes_append areAttributes {} (contentLine :: others)).trans
        (readAttributes_stop noMark _ others)
      rw [foldl_give] at attributesRead
      have created := Passage.create_eq_ok_iff.mpr ⟨isTitle, isContent, rfl⟩
      simp only [Block.read, stripOpening?_append, attributesRead, ok_bind, String.ofList_toList,
        isLine, created, obeyingAt]
      exact readLinks_eq_ok_iff.mpr
        ⟨links, areLinks, (Passage.addLinks_eq_ok_iff (by exact .nil)).mpr ⟨distinct, rfl⟩⟩

/-! ## Cutting lines into passages -/

theorem continuesBlock_of_attributeLine {text : List Char} {said : Attribute}
    (isAttribute : AttributeLine text said) (number : Nat) :
    Line.continuesBlock ⟨number, text⟩ = true := by
  induction isAttribute with
  | mood => exact continuesBlock_of_head (c := '@') rfl (by decide) (by decide)
  | singleVisit =>
    have shape : singleVisitLine = '@' :: singleVisitLine.drop 1 := by decide
    refine continuesBlock_of_head (c := '@') ?_ (by decide) (by decide)
    rw [shape]
    rfl

theorem continuesBlock_of_linkLine {text : List Char} {key : LinkKey} (isLink : LinkLine text key)
    (number : Nat) : Line.continuesBlock ⟨number, text⟩ = true := by
  induction isLink with
  | link => exact continuesBlock_of_head (c := '[') rfl (by decide) (by decide)

/-- The blanks before the actions of a line do not make it a blank line, and they
keep it from being a header. -/
theorem continuesBlock_of_actionLine {text : List Char} {actions : List Action}
    (areActions : ActionLine text actions) (number : Nat) :
    Line.continuesBlock ⟨number, text⟩ = true := by
  induction areActions with
  | @actions before after pieces read blankBefore =>
    cases before with
    | nil => exact continuesBlock_of_head (c := '\x7b') rfl (by decide) (by decide)
    | cons c before =>
      have solid : Text.isBlank (c :: before ++ ('\x7b' :: Text.join [','] pieces ++ ['\x7d'] ++
          after)) = false := by
        rw [Text.isBlank_append, blankBefore]
        rfl
      have noColon : c ≠ ':' := by
        rintro rfl
        rw [Text.isBlank_cons] at blankBefore
        cases blankBefore
      have notHeader (rest : List Char) : headerMark.isPrefixOf (c :: rest) = false := by
        rw [headerMark, List.isPrefixOf, beq_false_of_ne (Ne.symm noColon), Bool.false_and]
      rw [Line.continuesBlock, Line.isBlank, Line.isHeader, solid, List.cons_append, notHeader]
      rfl

theorem continuesBlock_of_linkLines {lines : List (List Char)} {links : List Link}
    (areLinks : LinkLines lines links) {text : List Char} (member : text ∈ lines) (number : Nat) :
    Line.continuesBlock ⟨number, text⟩ = true := by
  induction areLinks with
  | nil => cases member
  | bare isLink more ih =>
    rcases List.mem_cons.mp member with rfl | later
    · exact continuesBlock_of_linkLine isLink number
    · exact ih later
  | acting isLink areActions more ih =>
    rcases List.mem_cons.mp member with rfl | later
    · exact continuesBlock_of_linkLine isLink number
    · rcases List.mem_cons.mp later with rfl | later
      · exact continuesBlock_of_actionLine areActions number
      · exact ih later

theorem continuesBlock_of_attributeLines {lines : List (List Char)} {said : List Attribute}
    (areAttributes : List.Forall₂ AttributeLine lines said) {text : List Char}
    (member : text ∈ lines) (number : Nat) : Line.continuesBlock ⟨number, text⟩ = true := by
  induction areAttributes with
  | nil => cases member
  | cons isAttribute more ih =>
    rcases List.mem_cons.mp member with rfl | later
    · exact continuesBlock_of_attributeLine isAttribute number
    · exact ih later

/-- The lines of a passage are a header and lines that go on with its block. -/
theorem exists_header_of_passageLines {lines : List (List Char)} {passage : Passage}
    (areLines : PassageLines lines passage) :
    ∃ title body, lines = (headerMark ++ title) :: body ∧
      ∀ text ∈ body, ∀ number, Line.continuesBlock ⟨number, text⟩ = true := by
  induction areLines with
  | passage isTitle areAttributes isContent areLinks distinct =>
    refine ⟨_, _, rfl, fun text member number => ?_⟩
    rcases List.mem_append.mp member with onAttribute | rest
    · exact continuesBlock_of_attributeLines areAttributes onAttribute number
    · rcases List.mem_cons.mp rest with rfl | onLink
      · exact continuesBlock_content isContent number
      · exact continuesBlock_of_linkLines areLinks onLink number

/-- A header opens a block. -/
theorem header_opens (number : Nat) (title : List Char) :
    Line.isBlank ⟨number, headerMark ++ title⟩ = false ∧
      Line.continuesBlock ⟨number, headerMark ++ title⟩ = false := by
  have header : Line.isHeader ⟨number, headerMark ++ title⟩ = true :=
    List.isPrefixOf_iff_prefix.mpr (List.prefix_append headerMark title)
  rw [Line.continuesBlock, header, Bool.not_true, Bool.and_false]
  exact ⟨rfl, rfl⟩

/-- The lines of passages open with a blank line or a header, so they do not go on
with a block before them. -/
theorem stops_of_passagesLines {texts : List (List Char)} {passages : List Passage}
    (areLines : PassagesLines texts passages) {text : List Char} (first : texts.head? = some text)
    (number : Nat) : Line.continuesBlock ⟨number, text⟩ = false := by
  induction areLines with
  | nil => cases first
  | blank isBlank more =>
    cases first
    rw [Line.continuesBlock, Line.isBlank, isBlank]
    rfl
  | passage isPassage more =>
    rcases exists_header_of_passageLines isPassage with ⟨title, body, rfl, -⟩
    cases first
    exact (header_opens number title).2

/-- When every block is read, the lines are those of passages. -/
theorem passagesLines_of_blocks {lines : List Line} {passages : List Passage}
    (read : List.Forall₂ (fun block passage => Block.read block = .ok passage) (blocks lines)
      passages) :
    PassagesLines (lines.map Line.text) passages := by
  induction lines using blocks.induct generalizing passages with
  | case1 =>
    rw [blocks] at read
    cases read
    exact .nil
  | case2 line lines isBlank ih =>
    rw [blocks, if_pos isBlank] at read
    exact .blank isBlank (ih read)
  | case3 line lines solid ih =>
    rw [blocks, if_neg solid] at read
    cases read with
    | cons isPassage more =>
      have block := PassagesLines.passage (block_read_eq_ok_iff.mp isPassage) (ih more)
      rw [List.cons_append, ← List.map_append, List.takeWhile_append_dropWhile] at block
      exact block

/-- The lines of passages fall into blocks that are read as the passages. -/
theorem blocks_of_passagesLines {texts : List (List Char)} {passages : List Passage}
    (areLines : PassagesLines texts passages) {lines : List Line}
    (same : lines.map Line.text = texts) :
    List.Forall₂ (fun block passage => Block.read block = .ok passage) (blocks lines) passages := by
  induction areLines generalizing lines with
  | nil =>
    rw [List.map_eq_nil_iff.mp same, blocks]
    exact .nil
  | blank isBlank more ih =>
    rcases List.map_eq_cons_iff.mp same with ⟨line, others, rfl, rfl, rest⟩
    rw [blocks, if_pos (show line.isBlank = true from isBlank)]
    exact ih rest
  | passage isPassage more ih =>
    rcases exists_header_of_passageLines isPassage with ⟨title, body, rfl, continues⟩
    rcases List.map_eq_append_iff.mp same with ⟨block, others, rfl, isBlock, rfl⟩
    rcases List.map_eq_cons_iff.mp isBlock with ⟨⟨number, header⟩, bodyLines, rfl, rfl, rfl⟩
    have whole : blocks (⟨number, headerMark ++ title⟩ :: (bodyLines ++ others)) =
        ⟨⟨number, headerMark ++ title⟩, bodyLines⟩ :: blocks others := by
      apply blocks_append (header_opens number title).1
      · exact fun line member => continues line.text (List.mem_map_of_mem member) line.number
      · intro line first
        refine stops_of_passagesLines more ?_ line.number
        rw [List.head?_map, first, Option.map_some]
    rw [List.cons_append, whole]
    exact .cons (block_read_eq_ok_iff.mpr isPassage) (ih rfl)

/-! ## The lines of a story -/

theorem texts_numberFrom (number : Nat) (texts : List (List Char)) :
    (numberFrom number texts).map Line.text = texts := by
  induction texts generalizing number with
  | nil => rfl
  | cons text texts ih => rw [numberFrom, List.map_cons, ih]

/-- The passages of blocks are stored when each block is read and no two titles
are the same. -/
theorem readStored_eq_ok_iff {story final : Story} {blocks : List Block} :
    readStored story blocks = .ok final ↔
      ∃ passages,
        List.Forall₂ (fun block passage => Block.read block = .ok passage) blocks passages ∧
          passages.foldlM Story.add? story = some final := by
  induction blocks generalizing story with
  | nil =>
    rw [readStored, Except.ok.injEq]
    constructor
    · rintro rfl
      exact ⟨[], .nil, rfl⟩
    · rintro ⟨passages, none, added⟩
      cases none
      exact Option.some.inj added
  | cons block blocks ih =>
    rw [readStored, bind_eq_ok_iff]
    constructor
    · rintro ⟨passage, read, more⟩
      split at more
      · cases more
      · next next added =>
        rcases ih.mp more with ⟨passages, reads, stored⟩
        refine ⟨passage :: passages, .cons read reads, ?_⟩
        rw [List.foldlM_cons, added]
        exact stored
    · rintro ⟨passages, reads, stored⟩
      cases reads with
      | @cons _ passage _ passages read reads =>
        rw [List.foldlM_cons] at stored
        rcases Option.bind_eq_some_iff.mp stored with ⟨next, added, stored⟩
        refine ⟨passage, read, ?_⟩
        simp only [added]
        exact ih.mpr ⟨passages, reads, stored⟩

/-- What is read as a story has the lines of the story. -/
theorem storyLines_of_readLines {texts : List (List Char)} {story : Story}
    (read : readLines texts = .ok story) : StoryLines texts story := by
  unfold readLines at read
  split at read
  · cases read
  · next title texts =>
    split at read
    · cases read
    · split at read
      · cases read
      · next second texts =>
        split at read
        · cases read
        · next blank =>
          split at read
          · cases read
          · next block others cut =>
            rcases bind_eq_ok_iff.mp read with ⟨opening, readOpening, rest⟩
            rcases bind_eq_ok_iff.mp rest with ⟨created, create_eq, readOthers⟩
            rw [obeyingAt_eq_ok_iff, Story.create_eq_ok_iff] at create_eq
            rcases create_eq with ⟨isTitle, rfl⟩
            rcases readStored_eq_ok_iff.mp readOthers with ⟨passages, reads, stored⟩
            rcases story with ⟨storyTitle, storyOpening, storyFiled⟩
            rcases Story.foldlM_add?_create_iff.mp stored with
              ⟨distinct, rfl, rfl, keyed, same, ordered⟩
            have arePassages : PassagesLines texts (storyOpening :: passages) := by
              rw [← texts_numberFrom 3 texts]
              exact passagesLines_of_blocks (cut ▸ .cons readOpening reads)
            have isBlank : Text.isBlank second = true := by simpa using blank
            have lines := StoryLines.story isTitle isBlank arePassages distinct same ordered
            rw [String.toList_ofList, ← keyed.filed_eq] at lines
            exact lines

/-- The lines of a story are read as the story. -/
theorem readLines_of_storyLines {texts : List (List Char)} {story : Story}
    (areLines : StoryLines texts story) : readLines texts = .ok story := by
  induction areLines with
  | @story title second lines opening others stored isTitle blank arePassages distinct sameStored
      ordered =>
    have reads := blocks_of_passagesLines arePassages (texts_numberFrom 3 lines)
    rcases List.forall₂_cons_right_iff.mp reads with ⟨block, otherBlocks, read, reads, cut⟩
    have solid := (Rule.text_eq_ok_iff.mp isTitle).1
    have created : Story.create title opening = .ok ⟨title, opening, []⟩ :=
      Story.create_eq_ok_iff.mpr ⟨isTitle, rfl⟩
    have added : others.foldlM Story.add? ⟨title, opening, []⟩ =
        some ⟨title, opening, Story.filing stored⟩ := by
      rw [Story.foldlM_add?_create_iff, Story.stored_filing]
      exact ⟨distinct, rfl, rfl, Story.keyedByTitle_filing _ _ _, sameStored, ordered⟩
    simp only [readLines, solid, blank, cut, read, ok_bind, String.ofList_toList, created,
      obeyingAt, Bool.false_eq_true, Bool.not_true, if_false]
    exact readStored_eq_ok_iff.mpr ⟨others, reads, added⟩

end Script

/-- A text is accepted as a script when its lines follow the grammar, and then the
story that is read is the one that the lines spell. -/
theorem ofScript_eq_ok_iff (source : String) (story : Story) :
    Story.ofScript source = .ok story ↔ Script.StoryLines (Text.lines source.toList) story := by
  rw [Story.ofScript]
  exact ⟨Script.storyLines_of_readLines, Script.readLines_of_storyLines⟩

end Gamebook
