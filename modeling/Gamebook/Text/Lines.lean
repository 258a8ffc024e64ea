namespace Gamebook
namespace Text

/-!
# Lines and separated pieces

A line ends at a line feed, and one carriage return just before that line feed
belongs to the ending.  The last line may lack its ending.
-/

/-- The lines of a text, without their endings. -/
def lines : List Char → List (List Char)
  | [] => []
  | '\n' :: rest => [] :: lines rest
  | '\r' :: '\n' :: rest => [] :: lines rest
  | c :: rest =>
    match lines rest with
    | [] => [[c]]
    | line :: more => (c :: line) :: more

/-- The text in which every line is ended by a line feed. -/
def unlines (ls : List (List Char)) : List Char :=
  ls.flatMap (· ++ ['\n'])

/-- The pieces between the separators.  There is always one piece more than
there are separators. -/
def pieces (separator : Char) : List Char → List (List Char)
  | [] => [[]]
  | c :: rest =>
    if c = separator then [] :: pieces separator rest
    else
      match pieces separator rest with
      | [] => [[c]]
      | piece :: more => (c :: piece) :: more

/-- What stands before and after the first separator. -/
def cutAt? (separator : Char) : List Char → Option (List Char × List Char)
  | [] => none
  | c :: rest =>
    if c = separator then some ([], rest)
    else (cutAt? separator rest).map fun (before, after) => (c :: before, after)

/-- Join pieces with a separating text between them. -/
def join (separator : List Char) : List (List Char) → List Char
  | [] => []
  | [piece] => piece
  | piece :: more => piece ++ separator ++ join separator more

theorem join_cons (separator piece : List Char) {more : List (List Char)} (nonempty : more ≠ []) :
    join separator (piece :: more) = piece ++ separator ++ join separator more := by
  rw [join]
  exact nonempty

/-! ## Reading back what was put together -/

/-- A text that stands on one line: it holds neither character of a line's
ending. -/
def IsLine (cs : List Char) : Prop := ∀ c ∈ cs, c ≠ '\n' ∧ c ≠ '\r'

instance decidableIsLine (cs : List Char) : Decidable (IsLine cs) :=
  List.decidableBAll (fun c => c ≠ '\n' ∧ c ≠ '\r') cs

theorem isLine_cons {c : Char} {cs : List Char} :
    IsLine (c :: cs) ↔ (c ≠ '\n' ∧ c ≠ '\r') ∧ IsLine cs :=
  List.forall_mem_cons

theorem isLine_append {first second : List Char} :
    IsLine (first ++ second) ↔ IsLine first ∧ IsLine second :=
  List.forall_mem_append

theorem isLine_join {separator : List Char} (isLine : IsLine separator)
    {ps : List (List Char)} (areLines : ∀ piece ∈ ps, IsLine piece) :
    IsLine (join separator ps) := by
  induction ps with
  | nil => exact fun _ member => nomatch member
  | cons piece ps ih =>
    have parts := List.forall_mem_cons.mp areLines
    cases ps with
    | nil => exact parts.1
    | cons next ps =>
      rw [join, isLine_append, isLine_append]
      · exact ⟨⟨parts.1, isLine⟩, ih parts.2⟩
      · exact List.cons_ne_nil next ps

theorem lines_cons {c : Char} (plain : c ≠ '\n' ∧ c ≠ '\r') (cs : List Char) :
    lines (c :: cs) =
      match lines cs with
      | [] => [[c]]
      | line :: more => (c :: line) :: more := by
  rw [lines]
  · exact plain.1
  · intro _ isReturn
    exact absurd isReturn plain.2

theorem lines_append_lineFeed {line : List Char} (isLine : IsLine line) (rest : List Char) :
    lines (line ++ '\n' :: rest) = line :: lines rest := by
  induction line with
  | nil => simp [lines]
  | cons c line ih =>
    rw [List.cons_append, lines_cons (isLine c List.mem_cons_self),
      ih fun d member => isLine d (List.mem_cons_of_mem c member)]

theorem lines_ne_nil {cs : List Char} (nonempty : cs ≠ []) : lines cs ≠ [] := by
  cases cs with
  | nil => exact absurd rfl nonempty
  | cons c cs =>
    unfold lines
    split
    · next empty => cases empty
    · exact List.cons_ne_nil _ _
    · exact List.cons_ne_nil _ _
    · split <;> exact List.cons_ne_nil _ _

/-- The lines of a text that ends with a line are not changed by what follows. -/
theorem lines_append {cs : List Char} (ended : ∀ c, cs.getLast? = some c → c = '\n')
    (rest : List Char) : lines (cs ++ rest) = lines cs ++ lines rest := by
  induction cs using lines.induct with
  | case1 => rfl
  | case2 cs ih =>
    have endedLater : ∀ c, cs.getLast? = some c → c = '\n' := by
      intro c last
      apply ended c
      rw [List.getLast?_cons, last, Option.getD_some]
    rw [List.cons_append, lines, lines, ih endedLater, List.cons_append]
  | case3 cs ih =>
    have endedLater : ∀ c, cs.getLast? = some c → c = '\n' := by
      intro c last
      apply ended c
      rw [List.getLast?_cons, List.getLast?_cons, last, Option.getD_some, Option.getD_some]
    rw [List.cons_append, List.cons_append, lines, lines, ih endedLater, List.cons_append]
  | case4 c cs noFeed _ none =>
    have empty : cs = [] := Classical.not_not.mp (mt lines_ne_nil (not_not_intro none))
    rw [empty] at ended
    exact absurd (ended c rfl) noFeed
  | case5 c cs noFeed noReturn line more split ih =>
    have nonempty : cs ≠ [] := by
      rintro rfl
      cases split
    have endedLater : ∀ d, cs.getLast? = some d → d = '\n' := by
      intro d last
      apply ended d
      rw [List.getLast?_cons, last, Option.getD_some]
    have noReturnBefore : ∀ more, c = '\r' → cs ++ rest = '\n' :: more → False := by
      intro more isReturn feed
      rcases List.exists_cons_of_ne_nil nonempty with ⟨d, ds, rfl⟩
      exact noReturn ds isReturn (congrArg (· :: ds) (List.cons.inj feed).1)
    rw [List.cons_append, lines, lines, ih endedLater, split]
    · rfl
    · exact noFeed
    · exact noReturn
    · exact noFeed
    · exact noReturnBefore

/-- Lines that are written one after the other are read back as they were. -/
theorem lines_unlines {ls : List (List Char)} (areLines : ∀ line ∈ ls, IsLine line) :
    lines (unlines ls) = ls := by
  induction ls with
  | nil => rfl
  | cons line ls ih =>
    have rest := ih fun other member => areLines other (List.mem_cons_of_mem line member)
    rw [unlines] at rest ⊢
    rw [List.flatMap_cons, List.append_assoc, List.singleton_append,
      lines_append_lineFeed (areLines line List.mem_cons_self), rest]

theorem pieces_of_not_mem {separator : Char} {piece : List Char} (apart : separator ∉ piece) :
    pieces separator piece = [piece] := by
  induction piece with
  | nil => rfl
  | cons c piece ih =>
    rw [List.mem_cons, not_or] at apart
    simp only [pieces, if_neg (Ne.symm apart.1), ih apart.2]

theorem pieces_append {separator : Char} {piece : List Char} (apart : separator ∉ piece)
    (rest : List Char) :
    pieces separator (piece ++ separator :: rest) = piece :: pieces separator rest := by
  induction piece with
  | nil => simp [pieces]
  | cons c piece ih =>
    rw [List.mem_cons, not_or] at apart
    simp only [List.cons_append, pieces, if_neg (Ne.symm apart.1), ih apart.2]

/-- Pieces without the separator are read back as they were, unless there are
none. -/
theorem pieces_join {separator : Char} {ps : List (List Char)} (some_piece : ps ≠ [])
    (apart : ∀ piece ∈ ps, separator ∉ piece) : pieces separator (join [separator] ps) = ps := by
  induction ps with
  | nil => exact absurd rfl some_piece
  | cons piece ps ih =>
    cases ps with
    | nil => exact pieces_of_not_mem (apart piece List.mem_cons_self)
    | cons next ps =>
      have rest := ih (List.cons_ne_nil next ps) fun other member =>
        apart other (List.mem_cons_of_mem piece member)
      rw [join, List.append_assoc, List.singleton_append,
        pieces_append (apart piece List.mem_cons_self), rest]
      exact List.cons_ne_nil next ps

theorem pieces_ne_nil (separator : Char) (cs : List Char) : pieces separator cs ≠ [] := by
  cases cs with
  | nil => exact List.cons_ne_nil _ _
  | cons c cs =>
    rw [pieces]
    split
    · exact List.cons_ne_nil _ _
    · split <;> exact List.cons_ne_nil _ _

theorem pieces_separator (separator : Char) (cs rest : List Char) :
    pieces separator (cs ++ separator :: rest) = pieces separator cs ++ pieces separator rest := by
  induction cs with
  | nil => simp [pieces]
  | cons c cs ih =>
    rcases List.exists_cons_of_ne_nil (pieces_ne_nil separator cs) with ⟨piece, more, split⟩
    rw [List.cons_append, pieces, pieces, ih, split, List.cons_append]
    split
    · rfl
    · rfl

/-- Nothing of a text is lost when it is cut into pieces. -/
theorem join_pieces (separator : Char) (cs : List Char) :
    join [separator] (pieces separator cs) = cs := by
  induction cs with
  | nil => rfl
  | cons c cs ih =>
    rcases List.exists_cons_of_ne_nil (pieces_ne_nil separator cs) with ⟨piece, more, split⟩
    rw [split] at ih
    rw [pieces, split]
    by_cases isSeparator : c = separator
    · rw [if_pos isSeparator, join, ih, isSeparator]
      · rfl
      · exact List.cons_ne_nil piece more
    · rw [if_neg isSeparator]
      cases more with
      | nil => exact congrArg (c :: ·) ih
      | cons next more => exact congrArg (c :: ·) ih

theorem join_isPrefix (separator : List Char) (first second : List (List Char)) :
    join separator first <+: join separator (first ++ second) := by
  induction first with
  | nil => exact List.nil_prefix
  | cons piece first ih =>
    cases more : first ++ second with
    | nil =>
      rcases List.append_eq_nil_iff.mp more with ⟨rfl, rfl⟩
      exact List.prefix_rfl
    | cons next others =>
      rw [more] at ih
      rw [List.cons_append, more, join_cons separator piece (List.cons_ne_nil next others)]
      cases first with
      | nil =>
        rw [join, List.append_assoc]
        exact List.prefix_append _ _
      | cons second first =>
        rw [join_cons separator piece (List.cons_ne_nil second first)]
        exact (List.prefix_append_right_inj _).mpr ih

theorem not_mem_of_mem_pieces {separator : Char} {cs piece : List Char}
    (member : piece ∈ pieces separator cs) : separator ∉ piece := by
  induction cs generalizing piece with
  | nil =>
    rw [List.mem_singleton.mp member]
    exact List.not_mem_nil
  | cons c cs ih =>
    rcases List.exists_cons_of_ne_nil (pieces_ne_nil separator cs) with ⟨first, more, split⟩
    rw [split] at ih
    rw [pieces, split] at member
    by_cases isSeparator : c = separator
    · rw [if_pos isSeparator] at member
      rcases List.mem_cons.mp member with rfl | later
      · exact List.not_mem_nil
      · exact ih later
    · rw [if_neg isSeparator] at member
      rcases List.mem_cons.mp member with rfl | later
      · rw [List.mem_cons, not_or]
        exact ⟨Ne.symm isSeparator, ih List.mem_cons_self⟩
      · exact ih (List.mem_cons_of_mem first later)

theorem cutAt?_append {separator : Char} {before : List Char} (apart : separator ∉ before)
    (after : List Char) :
    cutAt? separator (before ++ separator :: after) = some (before, after) := by
  induction before with
  | nil => simp [cutAt?]
  | cons c before ih =>
    rw [List.mem_cons, not_or] at apart
    simp [cutAt?, Ne.symm apart.1, ih apart.2]

/-- A text is cut at its first separator, and nothing is lost. -/
theorem cutAt?_eq_some_iff {separator : Char} {cs before after : List Char} :
    cutAt? separator cs = some (before, after) ↔
      separator ∉ before ∧ cs = before ++ separator :: after := by
  constructor
  · intro cut
    induction cs generalizing before with
    | nil => cases cut
    | cons c cs ih =>
      rw [cutAt?] at cut
      split at cut
      · next isSeparator =>
        cases cut
        exact ⟨List.not_mem_nil, congrArg (· :: after) isSeparator⟩
      · next other =>
        rcases Option.map_eq_some_iff.mp cut with ⟨⟨first, rest⟩, cutRest, same⟩
        cases same
        rcases ih cutRest with ⟨apart, rfl⟩
        exact ⟨List.not_mem_cons_of_ne_of_not_mem (Ne.symm other) apart, rfl⟩
  · rintro ⟨apart, rfl⟩
    exact cutAt?_append apart after

end Text
end Gamebook
