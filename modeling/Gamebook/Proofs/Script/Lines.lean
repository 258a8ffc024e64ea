import Gamebook.Script.Read

namespace Gamebook
namespace Script

/-!
# The lines of a script read one by one

Every line that is written for a well-formed passage is recognized as what it
was written for.  A script has no escapes, so this rests on the rules for texts
alone: the reference of a link has no mark between the parts of a link, content
opens neither as a header nor as an attribute, and an item's name has no mark of
an action line and no blanks around it.

Nothing here looks at the number of a line or at the lines around it.
-/

/-! ## What a line opens with -/

/-- The part behind an opening is what was written behind it. -/
theorem stripOpening?_append (opening cs : List Char) :
    Text.stripOpening? opening (opening ++ cs) = some cs := by
  induction opening with
  | nil => rfl
  | cons c opening ih => rw [List.cons_append, Text.stripOpening?, if_pos rfl, ih]

theorem stripOpening?_of_head {c : Char} {opening cs : List Char} (different : cs.head? ≠ some c) :
    Text.stripOpening? (c :: opening) cs = none := by
  cases cs with
  | nil => rfl
  | cons d cs =>
    have unequal : c ≠ d := fun same => different (congrArg some same.symm)
    rw [Text.stripOpening?, if_neg unequal]

/-- Trimming the end of a text keeps an opening of it. -/
theorem trimEnd_prefix (cs : List Char) : Text.trimEnd cs <+: cs := by
  rw [← List.reverse_suffix, Text.trimEnd, List.reverse_reverse]
  exact List.dropWhile_suffix Text.isBlankChar

/-- A line goes on with its block when its first character is neither blank nor
a colon. -/
theorem continuesBlock_of_head {line : Line} {c : Char} (head : line.text.head? = some c)
    (solid : Text.isBlankChar c = false) (noColon : c ≠ ':') : line.continuesBlock = true := by
  rcases List.head?_eq_some_iff.mp head with ⟨rest, text⟩
  have notHeader : headerMark.isPrefixOf (c :: rest) = false := by
    rw [headerMark, List.isPrefixOf, beq_false_of_ne (Ne.symm noColon), Bool.false_and]
  rw [Line.continuesBlock, Line.isBlank, Line.isHeader, text, Text.isBlank_cons, solid, notHeader]
  rfl

/-! ## Links -/

/-- A split further on is a split of the whole. -/
theorem splitLink?_cons {cs before after : List Char} (c : Char)
    (later : splitLink? cs = some (before, after)) :
    splitLink? (c :: cs) = some (c :: before, after) := by
  unfold splitLink?
  rw [later]

/-- A text without the mark between the parts of a link is not split. -/
theorem splitLink?_eq_none {cs : List Char} (apart : Text.contains [']', '('] cs = false) :
    splitLink? cs = none := by
  induction cs with
  | nil => rfl
  | cons c cs ih =>
    rw [Text.contains, Bool.or_eq_false_iff] at apart
    unfold splitLink?
    rw [ih apart.2]
    simp only
    split
    · simp at apart
    · rfl

/-- The last mark is the one between the parts, since there is none in the
reference. -/
theorem splitLink?_append {reference : List Char} (text : List Char) (solid : reference ≠ [])
    (apart : Text.contains [']', '('] reference = false) :
    splitLink? (text ++ ']' :: '(' :: reference) = some (text, reference) := by
  induction text with
  | nil =>
    rcases List.exists_cons_of_ne_nil solid with ⟨c, rest, rfl⟩
    have inner : splitLink? ('(' :: c :: rest) = none := by
      unfold splitLink?
      rw [splitLink?_eq_none apart]
      rfl
    rw [List.nil_append]
    unfold splitLink?
    rw [inner]
    rfl
  | cons c text ih => exact splitLink?_cons c ih

theorem stripLast?_append (last : Char) (cs : List Char) :
    stripLast? last (cs ++ [last]) = some cs := by
  rw [stripLast?, List.getLast?_concat, if_pos rfl, List.dropLast_concat]

/-- The parts of a link are read back from its line. -/
theorem linkParts?_line {link : Link} (wellFormed : link.WellFormed) :
    linkParts? link.line = some (link.text.toList, link.reference.toList) := by
  have text := Rule.linkPart_eq_ok_iff.mp wellFormed.text
  have reference := Rule.linkPart_eq_ok_iff.mp wellFormed.reference
  rcases List.exists_cons_of_ne_nil (Rule.ne_nil_of_text text.1) with ⟨c, rest, characters⟩
  have line : link.line =
      '[' :: (link.text.toList ++ ']' :: '(' :: link.reference.toList ++ [')']) := by
    simp [Link.line]
  have trimmed : Text.trimEnd link.line = link.line := by
    rw [Text.trimEnd_eq_self_iff, line, ← List.cons_append]
    intro last final
    rw [List.getLast?_concat] at final
    cases final
    decide
  rw [linkParts?, trimmed, line]
  simp only [stripLast?_append]
  rw [characters, List.cons_append]
  simp only [splitLink?_append rest (Rule.ne_nil_of_text reference.1) reference.2]
  rfl

/-- A link without its actions is read back from its line. -/
theorem readLink_line {link : Link} (wellFormed : link.WellFormed) (number : Nat) :
    readLink ⟨number, link.line⟩ = .ok ⟨link.key, []⟩ := by
  rw [readLink, linkParts?_line wellFormed]
  simp only [String.ofList_toList, Link.create_of_wellFormed wellFormed, obeyingAt]

theorem isActions_line (link : Link) (number : Nat) :
    Line.isActions ⟨number, link.line⟩ = false := by
  have start : Text.trimStart link.line = link.line :=
    Text.trimStart_eq_self_iff.mpr fun c head => by cases head; decide
  rw [Line.isActions, start]
  rfl

theorem continuesBlock_line (link : Link) (number : Nat) :
    Line.continuesBlock ⟨number, link.line⟩ = true :=
  continuesBlock_of_head (c := '[') rfl (by decide) (by decide)

/-! ## Actions -/

/-- A short form has no comma and no brace. -/
theorem mark_not_mem_short {action : Action} (valid : action.Valid) {mark : Char}
    (isMark : mark ∈ Limits.itemMarks) : mark ∉ action.short.toList := by
  have cases : mark = ',' ∨ mark = '\x7b' ∨ mark = '\x7d' := by
    simpa [Limits.itemMarks] using isMark
  have notInLetter : mark ∉ action.aspect.letter.toList := by
    rcases action.aspect with (_ | _ | _) | _ <;> rcases cases with rfl | rfl | rfl <;> decide
  have notColon : mark ≠ ':' := by
    rcases cases with rfl | rfl | rfl <;> decide
  have notInPayload : mark ∉ action.payloadText.toList := by
    cases action with
    | change counter amount =>
      rw [Action.payloadText, Text.toList_decimal]
      intro member
      rcases Text.sign_or_digit_of_mem_numeral member with rfl | range
      · simp at cases
      · rcases cases with rfl | rfl | rfl <;> revert range <;> decide
    | take item => exact (Rule.item_eq_ok_iff.mp valid).2.2 mark isMark
  rw [Action.toList_short, List.mem_append, List.mem_cons]
  rintro (inLetter | isColon | inPayload)
  · exact notInLetter inLetter
  · exact notColon isColon
  · exact notInPayload inPayload

theorem payloadText_ne_nil {action : Action} (valid : action.Valid) :
    action.payloadText.toList ≠ [] := by
  cases action with
  | change counter amount =>
    rw [Action.payloadText, Text.toList_decimal, Text.numeral]
    split
    · exact List.cons_ne_nil _ _
    · exact Text.digits_ne_nil _
  | take item => exact Rule.ne_nil_of_text (Rule.item_eq_ok_iff.mp valid).1

/-- A short form has no blanks around it. -/
theorem trim_short {action : Action} (valid : action.Valid) :
    Text.trim action.short.toList = action.short.toList := by
  obtain ⟨letter, isLetter, solid⟩ :
      ∃ letter, action.aspect.letter.toList = [letter] ∧ Text.isBlankChar letter = false := by
    rcases action.aspect with (_ | _ | _) | _ <;> exact ⟨_, rfl, by decide⟩
  have nonempty := payloadText_ne_nil valid
  have ends := Text.trimEnd_eq_self_iff.mp
    (Text.trim_eq_self_iff.mp (Action.trim_payloadText valid)).2 _
    (List.getLast?_eq_some_getLast nonempty)
  rw [Action.toList_short, isLetter, ← List.dropLast_concat_getLast nonempty]
  exact Text.trim_enclosed (':' :: action.payloadText.toList.dropLast) solid ends

/-- The short forms are read back from a line of actions. -/
theorem actionTokens?_actionLine {link : Link} (wellFormed : link.WellFormed) :
    actionTokens? link.actionLine = some (link.actions.map fun action => action.short.toList) := by
  have trimmed : Text.trim link.actionLine = link.actionLine :=
    Text.trim_enclosed _ (by decide) (by decide)
  have shorts : ∀ short ∈ link.actions.map fun action => action.short.toList,
      ',' ∉ short ∧ Text.trim short = short ∧ short.isEmpty = false := by
    intro short member
    rcases List.mem_map.mp member with ⟨action, listed, rfl⟩
    have valid := wellFormed.actions action listed
    refine ⟨mark_not_mem_short valid (by decide), trim_short valid, ?_⟩
    rw [Action.toList_short]
    exact List.isEmpty_eq_false_iff.mpr (by simp)
  rw [actionTokens?, trimmed, Link.actionLine, List.cons_append]
  simp only [stripLast?_append, Option.map_some, Option.some.injEq]
  cases actions : link.actions.map fun action => action.short.toList with
  | nil => decide
  | cons first others =>
    rw [actions] at shorts
    rw [Text.pieces_join (List.cons_ne_nil first others) fun short member =>
        (shorts short member).1,
      List.map_congr_left (g := id) fun short member => (shorts short member).2.1, List.map_id,
      List.filter_eq_self]
    intro short member
    rw [(shorts short member).2.2]
    rfl

theorem readTokens_shorts {actions : List Action} (valid : ∀ action ∈ actions, action.Valid) :
    readTokens (actions.map fun action => action.short.toList) = .ok actions := by
  induction actions with
  | nil => rfl
  | cons action actions ih =>
    have rest := ih fun other member => valid other (List.mem_cons_of_mem action member)
    rw [List.map_cons, readTokens, String.ofList_toList,
      Action.ofShort_short (valid action List.mem_cons_self), ok_bind, rest, ok_bind]

/-- A link's actions are read back from their line. -/
theorem readActions_actionLine {link : Link} (wellFormed : link.WellFormed) (number : Nat) :
    readActions ⟨number, link.actionLine⟩ = .ok link.actions := by
  rw [readActions, actionTokens?_actionLine wellFormed]
  simp only [readTokens_shorts wellFormed.actions]

theorem isActions_actionLine (link : Link) (number : Nat) :
    Line.isActions ⟨number, link.actionLine⟩ = true := by
  have start : Text.trimStart link.actionLine = link.actionLine :=
    Text.trimStart_eq_self_iff.mpr fun c head => by cases head; decide
  rw [Line.isActions, start]
  rfl

theorem continuesBlock_actionLine (link : Link) (number : Nat) :
    Line.continuesBlock ⟨number, link.actionLine⟩ = true :=
  continuesBlock_of_head (c := '\x7b') rfl (by decide) (by decide)

/-! ## Attributes and content -/

/-- Content opens with no mark of another line. -/
theorem content_opening {field content : String} (accepted : Rule.content field content = .ok ()) :
    content.toList.head? ≠ some '@' ∧ headerMark.isPrefixOf content.toList = false := by
  have openings := (Rule.content_eq_ok_iff.mp accepted).2
  constructor
  · intro head
    rcases List.head?_eq_some_iff.mp head with ⟨rest, text⟩
    exact openings "@" (by decide) (text ▸ List.prefix_append ['@'] rest)
  · rw [← Bool.not_eq_true, List.isPrefixOf_iff_prefix]
    exact openings "::" (by decide)

theorem continuesBlock_content {field content : String}
    (accepted : Rule.content field content = .ok ()) (number : Nat) :
    Line.continuesBlock ⟨number, content.toList⟩ = true := by
  have solid := (Rule.text_eq_ok_iff.mp (Rule.content_eq_ok_iff.mp accepted).1).1
  rw [Line.continuesBlock, Line.isBlank, Line.isHeader, solid, (content_opening accepted).2]
  rfl

/-- A line that does not open with an at sign is no attribute. -/
theorem readAttributes_stop {line : Line} (noMark : line.text.head? ≠ some '@')
    (attributes : Attributes) (lines : List Line) :
    readAttributes attributes (line :: lines) = .ok (attributes, line :: lines) := by
  have notSingleVisit : Text.trimEnd line.text ≠ singleVisitLine := by
    intro same
    rcases same ▸ trimEnd_prefix line.text with ⟨rest, text⟩
    exact noMark (text ▸ rfl)
  rw [readAttributes, show moodMark = '@' :: ['m', 'o', 'o', 'd', ' '] from rfl,
    stripOpening?_of_head noMark]
  simp only [if_neg notSingleVisit]

theorem readAttributes_mood (mood : Mood) (number : Nat) (attributes : Attributes)
    (lines : List Line) :
    readAttributes attributes (⟨number, moodMark ++ mood.key.toList⟩ :: lines) =
      readAttributes { attributes with mood } lines := by
  have known : Mood.ofKey? mood.key.toList = some mood := by
    cases mood <;> decide
  rw [readAttributes, stripOpening?_append]
  simp only [known]

theorem readAttributes_singleVisit (number : Nat) (attributes : Attributes) (lines : List Line) :
    readAttributes attributes (⟨number, singleVisitLine⟩ :: lines) =
      readAttributes { attributes with singleVisit := true } lines := by
  have notMood : Text.stripOpening? moodMark singleVisitLine = none := by decide
  have trimmed : Text.trimEnd singleVisitLine = singleVisitLine := by decide
  rw [readAttributes]
  simp only [notMood, trimmed, if_true]

end Script
end Gamebook
