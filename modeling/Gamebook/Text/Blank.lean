namespace Gamebook
namespace Text

/-!
# Blank characters and trimming

A character is blank when Unicode gives it the White_Space property.  Every
rule of the library that speaks of blank lines, blank titles or surrounding
blanks means this set, which is larger than the ASCII blanks.
-/

/-- Says whether Unicode counts the character as white space. -/
def isBlankChar (c : Char) : Bool :=
  let n := c.toNat
  (9 ≤ n && n ≤ 13) || n == 0x20 || n == 0x85 || n == 0xA0 || n == 0x1680 ||
    (0x2000 ≤ n && n ≤ 0x200A) || n == 0x2028 || n == 0x2029 || n == 0x202F ||
    n == 0x205F || n == 0x3000

/-- A text is blank when it holds nothing but blank characters. -/
def isBlank (cs : List Char) : Bool :=
  cs.all isBlankChar

def trimStart (cs : List Char) : List Char :=
  cs.dropWhile isBlankChar

def trimEnd (cs : List Char) : List Char :=
  (cs.reverse.dropWhile isBlankChar).reverse

/-- Drop the blanks at both ends. -/
def trim (cs : List Char) : List Char :=
  trimEnd (trimStart cs)

/-- The text without the given opening, when it has that opening. -/
def stripOpening? : List Char → List Char → Option (List Char)
  | [], cs => some cs
  | _ :: _, [] => none
  | p :: ps, c :: cs => if p = c then stripOpening? ps cs else none

def contains (part : List Char) : List Char → Bool
  | [] => part.isEmpty
  | c :: cs => part.isPrefixOf (c :: cs) || contains part cs

/-! ## What blank characters are -/

theorem isBlank_nil : isBlank [] = true := rfl

theorem isBlank_cons (c : Char) (cs : List Char) :
    isBlank (c :: cs) = (isBlankChar c && isBlank cs) := rfl

/-- A blank has no capital. -/
theorem toUpper_of_isBlankChar {c : Char} (blank : isBlankChar c = true) : c.toUpper = c := by
  unfold Char.toUpper
  split
  · next small =>
    have least : 97 ≤ c.toNat := small.1
    have most : c.toNat ≤ 122 := small.2
    simp only [isBlankChar, Bool.or_eq_true, Bool.and_eq_true, decide_eq_true_eq, beq_iff_eq]
      at blank
    omega
  · rfl

/-! ## Texts that trimming leaves alone -/

theorem dropWhile_eq_self_iff {p : Char → Bool} {cs : List Char} :
    cs.dropWhile p = cs ↔ ∀ c, cs.head? = some c → p c = false := by
  cases cs with
  | nil => simp
  | cons c cs =>
    cases found : p c with
    | false => simp [found]
    | true =>
      have shorter := (List.dropWhile_sublist p (l := cs)).length_le
      constructor
      · intro same
        have lengths := congrArg List.length same
        simp only [List.dropWhile_cons, found, if_true, List.length_cons] at lengths
        omega
      · intro solid
        have := solid c rfl
        simp [found] at this

theorem trimStart_eq_self_iff {cs : List Char} :
    trimStart cs = cs ↔ ∀ c, cs.head? = some c → isBlankChar c = false :=
  dropWhile_eq_self_iff

theorem trimEnd_eq_self_iff {cs : List Char} :
    trimEnd cs = cs ↔ ∀ c, cs.getLast? = some c → isBlankChar c = false := by
  rw [trimEnd, List.reverse_eq_iff, dropWhile_eq_self_iff, List.head?_reverse]

/-- A text is trimmed when neither its first nor its last character is blank. -/
theorem trim_eq_self_iff {cs : List Char} :
    trim cs = cs ↔ trimStart cs = cs ∧ trimEnd cs = cs := by
  constructor
  · intro trimmed
    have start : trimStart cs = cs := by
      have suffixed : trimStart cs <:+ cs := List.dropWhile_suffix isBlankChar
      have inner : (trimEnd (trimStart cs)).length ≤ (trimStart cs).length := by
        simpa [trimEnd] using
          (List.dropWhile_sublist isBlankChar (l := (trimStart cs).reverse)).length_le
      have lengths := congrArg List.length trimmed
      simp only [trim] at lengths
      exact suffixed.eq_of_length (Nat.le_antisymm suffixed.length_le (by omega))
    refine ⟨start, ?_⟩
    simpa only [trim, start] using trimmed
  · rintro ⟨start, final⟩
    rw [trim, start, final]

/-- A text that opens and ends with characters that are not blank is trimmed. -/
theorem trim_enclosed {first last : Char} (cs : List Char) (opens : isBlankChar first = false)
    (ends : isBlankChar last = false) : trim (first :: cs ++ [last]) = first :: cs ++ [last] := by
  rw [trim_eq_self_iff, trimStart_eq_self_iff, trimEnd_eq_self_iff]
  constructor
  · intro c head
    cases head
    exact opens
  · intro c final
    rw [List.getLast?_concat] at final
    cases final
    exact ends

/-- A text without any blank is trimmed. -/
theorem trim_eq_self_of_forall {cs : List Char} (solid : ∀ c ∈ cs, isBlankChar c = false) :
    trim cs = cs := by
  rw [trim_eq_self_iff, trimStart_eq_self_iff, trimEnd_eq_self_iff]
  exact ⟨fun c head => solid c (List.mem_of_mem_head? head),
    fun c final => solid c (List.mem_of_mem_getLast? final)⟩

/-! ## Blanks around a text -/

theorem isBlank_append (first second : List Char) :
    isBlank (first ++ second) = (isBlank first && isBlank second) :=
  List.all_append

theorem trimStart_append_of_isBlank {before : List Char} (blank : isBlank before = true)
    (cs : List Char) : trimStart (before ++ cs) = trimStart cs :=
  List.dropWhile_append_of_pos (List.all_eq_true.mp blank)

theorem trimEnd_append_of_isBlank {after : List Char} (blank : isBlank after = true)
    (cs : List Char) : trimEnd (cs ++ after) = trimEnd cs := by
  have blanks : ∀ c ∈ after.reverse, isBlankChar c = true := fun c member =>
    List.all_eq_true.mp blank c (List.mem_reverse.mp member)
  rw [trimEnd, List.reverse_append, List.dropWhile_append_of_pos blanks, trimEnd]

theorem trimStart_of_isBlank {cs : List Char} (blank : isBlank cs = true) : trimStart cs = [] := by
  simpa [trimStart] using trimStart_append_of_isBlank blank []

/-- What trimming drops from the start of a text is blank. -/
theorem exists_blank_trimStart (cs : List Char) :
    ∃ before, isBlank before = true ∧ cs = before ++ trimStart cs :=
  ⟨cs.takeWhile isBlankChar, List.all_takeWhile, List.takeWhile_append_dropWhile.symm⟩

/-- What trimming drops from the end of a text is blank. -/
theorem exists_trimEnd_blank (cs : List Char) :
    ∃ after, isBlank after = true ∧ cs = trimEnd cs ++ after := by
  refine ⟨(cs.reverse.takeWhile isBlankChar).reverse, ?_, ?_⟩
  · rw [isBlank, List.all_reverse]
    exact List.all_takeWhile
  · rw [trimEnd, ← List.reverse_append, List.takeWhile_append_dropWhile, List.reverse_reverse]

/-- A text is another without its blanks at the end when it is that text with
blanks behind it. -/
theorem trimEnd_eq_iff {cs solid : List Char} (trimmed : trimEnd solid = solid) :
    trimEnd cs = solid ↔ ∃ after, isBlank after = true ∧ cs = solid ++ after := by
  constructor
  · rintro rfl
    exact exists_trimEnd_blank cs
  · rintro ⟨after, blank, rfl⟩
    rw [trimEnd_append_of_isBlank blank, trimmed]

/-- What trimming drops from both ends of a text is blank. -/
theorem exists_blank_trim_blank (cs : List Char) :
    ∃ before after, isBlank before = true ∧ isBlank after = true ∧
      cs = before ++ (trim cs ++ after) := by
  rcases exists_blank_trimStart cs with ⟨before, blankBefore, split⟩
  rcases exists_trimEnd_blank (trimStart cs) with ⟨after, blankAfter, split'⟩
  exact ⟨before, after, blankBefore, blankAfter, split.trans (congrArg (before ++ ·) split')⟩

theorem trim_eq_iff {cs solid : List Char} (trimmed : trim solid = solid) :
    trim cs = solid ↔
      ∃ before after, isBlank before = true ∧ isBlank after = true ∧
        cs = before ++ (solid ++ after) := by
  have parts := trim_eq_self_iff.mp trimmed
  constructor
  · rintro rfl
    exact exists_blank_trim_blank cs
  · rintro ⟨before, after, blankBefore, blankAfter, rfl⟩
    rw [trim, trimStart_append_of_isBlank blankBefore]
    cases solid with
    | nil => rw [List.nil_append, trimStart_of_isBlank blankAfter]; rfl
    | cons c cs =>
      have start : trimStart (c :: cs ++ after) = c :: cs ++ after :=
        trimStart_eq_self_iff.mpr fun d head => trimStart_eq_self_iff.mp parts.1 d head
      rw [start, trimEnd_append_of_isBlank blankAfter, parts.2]

end Text
end Gamebook
