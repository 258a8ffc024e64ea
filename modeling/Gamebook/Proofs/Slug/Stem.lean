import Mathlib.Data.List.Chain
import Gamebook.Slug

namespace Gamebook
namespace Slug

/-!
# Slugs are stems

A stem is what may stand before the extension of a file's name: small letters and
digits with joints between them.  A dash joins a word to one that follows, so behind
a dash there is a letter or a digit.  Underscores are kept as they were given, and
several of them may stand together, also before a dash.

Every slug is a stem.  A stem is its own slug, so the slug of a slug is nothing new,
and the stems are just the slugs that there are.
-/

/-- Says whether the character is a small letter or a digit of ASCII. -/
def isSmall (c : Char) : Bool := ('a' ≤ c && c ≤ 'z') || ('0' ≤ c && c ≤ '9')

/-- Says that one character may come before another in a stem. -/
def Leads (before after : Char) : Prop := before = '-' → isSmall after = true

/-- What may stand before the extension of a file's name. -/
structure IsStem (cs : List Char) : Prop where
  nonempty : cs ≠ []
  alphabet : ∀ c ∈ cs, isSmall c = true ∨ c = '-' ∨ c = '_'
  first : ∀ c, cs.head? = some c → isSmall c = true
  last : ∀ c, cs.getLast? = some c → isSmall c = true
  noTwoDashes : ¬ ['-', '-'] <:+: cs
  noDashUnderscore : ¬ ['-', '_'] <:+: cs

/-! ## Characters -/

theorem isJoint_iff {c : Char} : isJoint c = true ↔ c = '-' ∨ c = '_' := by
  rw [isJoint, Bool.or_eq_true, decide_eq_true_eq, decide_eq_true_eq]

theorem isKept_of_isSmall {c : Char} (small : isSmall c = true) : isKept c = true := by
  rw [isSmall, Bool.or_eq_true] at small
  rw [isKept, Bool.or_eq_true, Bool.or_eq_true]
  rcases small with letter | digit
  · exact .inl (.inl letter)
  · exact .inr digit

/-- No capital is small. -/
theorem toLower_of_isSmall {c : Char} (small : isSmall c = true) : c.toLower = c := by
  unfold Char.toLower
  split
  · next capital =>
    have least : 65 ≤ c.toNat := capital.1
    have most : c.toNat ≤ 90 := capital.2
    rw [isSmall, Bool.or_eq_true, Bool.and_eq_true, Bool.and_eq_true, decide_eq_true_eq,
      decide_eq_true_eq, decide_eq_true_eq, decide_eq_true_eq] at small
    rcases small with letter | digit
    · have above : 97 ≤ c.toNat := letter.1
      omega
    · have below : c.toNat ≤ 57 := digit.2
      omega
  · rfl

/-- What is kept is written small. -/
theorem isSmall_toLower {c : Char} (kept : isKept c = true) : isSmall c.toLower = true := by
  rw [isKept, Bool.or_eq_true, Bool.or_eq_true] at kept
  rw [isSmall, Bool.or_eq_true]
  unfold Char.toLower
  split
  · next capital =>
    have least : 65 ≤ c.val.toNat := capital.1
    have most : c.val.toNat ≤ 90 := capital.2
    have value : (c.val + ('a'.val - 'A'.val)).toNat = c.val.toNat + 32 := by
      rw [UInt32.toNat_add, show ('a'.val - 'A'.val).toNat = 32 from rfl]
      omega
    rw [Bool.and_eq_true, decide_eq_true_eq, decide_eq_true_eq]
    refine .inl ⟨?_, ?_⟩
    · show 'a'.val ≤ c.val + ('a'.val - 'A'.val)
      rw [UInt32.le_iff_toNat_le, value]
      exact Nat.add_le_add_right least 32
    · show c.val + ('a'.val - 'A'.val) ≤ 'z'.val
      rw [UInt32.le_iff_toNat_le, value]
      exact Nat.add_le_add_right most 32
  · next noCapital =>
    rcases kept with (letter | capital) | digit
    · exact .inl letter
    · rw [Bool.and_eq_true, decide_eq_true_eq, decide_eq_true_eq] at capital
      exact absurd capital noCapital
    · exact .inr digit

theorem isJoint_eq_false_of_isSmall {c : Char} (small : isSmall c = true) : isJoint c = false := by
  rw [← Bool.not_eq_true, isJoint_iff]
  intro joint
  rcases joint with rfl | rfl
  · exact absurd small (by decide)
  · exact absurd small (by decide)

theorem leads_of_isSmall {before after : Char} (small : isSmall before = true) :
    Leads before after := by
  intro dash
  rw [dash] at small
  exact absurd small (by decide)

/-! ## The characters that are written -/

theorem small_or_joint_of_mem_chars {started pending : Bool} {name : List Char} {c : Char}
    (member : c ∈ chars started pending name) : isSmall c = true ∨ isJoint c = true := by
  induction name generalizing started pending with
  | nil => cases member
  | cons d name ih =>
    rw [chars] at member
    split at member
    · next kept =>
      have written : c ∈ d.toLower :: chars true false name →
          isSmall c = true ∨ isJoint c = true := by
        intro member
        rcases List.mem_cons.mp member with same | later
        · rw [same]
          exact .inl (isSmall_toLower kept)
        · exact ih later
      split at member
      · rcases List.mem_cons.mp member with dash | member
        · exact .inr (isJoint_iff.mpr (.inl dash))
        · exact written member
      · exact written member
    · split at member
      · rcases List.mem_cons.mp member with underscore | later
        · exact .inr (isJoint_iff.mpr (.inr underscore))
        · exact ih later
      · exact ih member

/-- A dash is written together with the letter or digit behind it, so nothing else
comes behind a dash.  This holds whatever was written and passed over before. -/
theorem isChain_chars (started pending : Bool) (name : List Char) :
    (chars started pending name).IsChain Leads := by
  induction name generalizing started pending with
  | nil => exact List.isChain_nil
  | cons c name ih =>
    rw [chars]
    split
    · next kept =>
      have small := isSmall_toLower kept
      have going : (c.toLower :: chars true false name).IsChain Leads :=
        (ih true false).cons fun _ _ => leads_of_isSmall small
      split
      · apply going.cons
        intro after next _
        rw [List.head?_cons, Option.mem_some_iff] at next
        rwa [← next]
      · exact going
    · split
      · apply (ih true false).cons
        intro after _ dash
        exact absurd dash (by decide)
      · exact ih started true

/-- Until something has been kept, no joint is written. -/
theorem isSmall_head_chars {pending : Bool} {name : List Char} {c : Char}
    (first : (chars false pending name).head? = some c) : isSmall c = true := by
  induction name generalizing pending with
  | nil => cases first
  | cons d name ih =>
    rw [chars, Bool.and_false, Bool.and_false, if_neg Bool.false_ne_true,
      if_neg Bool.false_ne_true] at first
    split at first
    · next kept =>
      rw [List.head?_cons, Option.some_inj] at first
      rw [← first]
      exact isSmall_toLower kept
    · exact ih first

/-- The last character that is left is no joint. -/
theorem isJoint_last_dropJoints {cs : List Char} {c : Char}
    (last : (dropJoints cs).getLast? = some c) : isJoint c = false := by
  rw [dropJoints, List.getLast?_reverse] at last
  have stopped := List.head?_dropWhile_not isJoint cs.reverse
  rw [last] at stopped
  exact stopped

/-! ## Slugs are stems -/

/-- What is written for a name is a stem, when anything is left of it. -/
theorem isStem_dropJoints_chars {name : List Char}
    (nonempty : dropJoints (chars false false name) ≠ []) :
    IsStem (dropJoints (chars false false name)) := by
  have opening := dropJoints_isPrefix (chars false false name)
  have alphabet : ∀ c ∈ dropJoints (chars false false name),
      isSmall c = true ∨ isJoint c = true :=
    fun c member => small_or_joint_of_mem_chars (opening.subset member)
  have chain := List.IsChain.prefix (isChain_chars false false name) opening
  have behindDash : ∀ c, ['-', c] <:+: dropJoints (chars false false name) → isSmall c = true := by
    intro c part
    have joined := List.IsChain.infix chain part
    exact List.isChain_pair.mp joined rfl
  constructor
  · exact nonempty
  · intro c member
    exact (alphabet c member).imp_right isJoint_iff.mp
  · intro c first
    apply isSmall_head_chars
    obtain ⟨rest, same⟩ := opening
    rw [← same, List.head?_append, first, Option.some_or]
  · intro c last
    rcases alphabet c (List.mem_of_getLast? last) with small | joint
    · exact small
    · rw [isJoint_last_dropJoints last] at joint
      cases joint
  · intro part
    exact absurd (behindDash '-' part) (by decide)
  · intro part
    exact absurd (behindDash '_' part) (by decide)

/-- The slug of a name with nothing to keep is a stem. -/
theorem isStem_story : IsStem ['s', 't', 'o', 'r', 'y'] := by
  have small : ['s', 't', 'o', 'r', 'y'].all isSmall = true := by decide
  refine ⟨by decide, ?_, ?_, ?_, by decide, by decide⟩
  · intro c member
    exact .inl (List.all_eq_true.mp small c member)
  · intro c first
    cases first
    decide
  · intro c last
    cases last
    decide

theorem isStem_ofChars (name : List Char) : IsStem (ofChars name) := by
  unfold ofChars
  split
  · exact isStem_story
  · next nonempty => exact isStem_dropJoints_chars nonempty

/-! ## Stems are their own slugs -/

theorem IsStem.isChain {cs : List Char} (stem : IsStem cs) : cs.IsChain Leads := by
  apply (List.isChain_isInfix cs).imp
  intro before after part dash
  rw [dash] at part
  have member : after ∈ cs := part.subset (List.mem_cons_of_mem _ List.mem_cons_self)
  rcases stem.alphabet after member with small | joint | joint
  · exact small
  · rw [joint] at part
    exact absurd part stem.noTwoDashes
  · rw [joint] at part
    exact absurd part stem.noDashUnderscore

theorem chars_of_isSmall {c : Char} (small : isSmall c = true) (started : Bool)
    (rest : List Char) : chars started false (c :: rest) = c :: chars true false rest := by
  rw [chars, if_pos (isKept_of_isSmall small), Bool.false_and, if_neg Bool.false_ne_true,
    toLower_of_isSmall small]

theorem chars_dash {c : Char} (small : isSmall c = true) (rest : List Char) :
    chars true false ('-' :: c :: rest) = '-' :: chars true false (c :: rest) := by
  rw [chars_of_isSmall small, chars, if_neg (by decide), if_neg (by decide), chars,
    if_pos (isKept_of_isSmall small), Bool.and_true, if_pos rfl, toLower_of_isSmall small]

theorem chars_underscore (rest : List Char) :
    chars true false ('_' :: rest) = '_' :: chars true false rest := by
  rw [chars, if_neg (by decide), if_pos (by decide)]

/-- The rest of a stem is written as it is.  The induction is on the rest, and a dash
is always followed by something that is kept. -/
theorem chars_eq_self {cs : List Char}
    (alphabet : ∀ c ∈ cs, isSmall c = true ∨ c = '-' ∨ c = '_') (chain : cs.IsChain Leads)
    (last : ∀ c, cs.getLast? = some c → isSmall c = true) : chars true false cs = cs := by
  induction cs with
  | nil => rfl
  | cons c rest ih =>
    obtain ⟨next, chain⟩ := List.isChain_cons.mp chain
    have going : chars true false rest = rest := by
      apply ih _ chain
      · intro d lastOfRest
        apply last d
        rw [List.getLast?_cons, lastOfRest, Option.getD_some]
      · intro d member
        exact alphabet d (List.mem_cons_of_mem c member)
    rcases alphabet c List.mem_cons_self with small | dash | underscore
    · rw [chars_of_isSmall small, going]
    · rw [dash] at last next ⊢
      cases rest with
      | nil => exact absurd (last '-' rfl) (by decide)
      | cons d rest => rw [chars_dash (next d rfl rfl), going]
    · rw [underscore, chars_underscore, going]

theorem dropJoints_eq_self {cs : List Char}
    (last : ∀ c, cs.getLast? = some c → isSmall c = true) : dropJoints cs = cs := by
  rw [dropJoints, Text.dropWhile_eq_self_iff.mpr, List.reverse_reverse]
  intro c first
  rw [List.head?_reverse] at first
  exact isJoint_eq_false_of_isSmall (last c first)

theorem IsStem.ofChars_eq {cs : List Char} (stem : IsStem cs) : ofChars cs = cs := by
  have written : chars false false cs = cs := by
    cases cs with
    | nil => rfl
    | cons c rest =>
      rw [chars_of_isSmall (stem.first c rfl),
        ← chars_of_isSmall (stem.first c rfl) true rest]
      exact chars_eq_self stem.alphabet stem.isChain stem.last
  unfold ofChars
  rw [written, dropJoints_eq_self stem.last]
  split
  · exact absurd rfl stem.nonempty
  · rfl

/-- The stems are just the names that are their own slugs. -/
theorem ofChars_eq_self_iff {cs : List Char} : ofChars cs = cs ↔ IsStem cs := by
  constructor
  · intro same
    rw [← same]
    exact isStem_ofChars cs
  · exact IsStem.ofChars_eq

end Slug

theorem isStem_slug (name : String) : Slug.IsStem (slug name).toList := by
  rw [slug, String.toList_ofList]
  exact Slug.isStem_ofChars name.toList

/-- A slug is its own slug. -/
theorem slug_slug (name : String) : slug (slug name) = slug name := by
  rw [slug, (isStem_slug name).ofChars_eq, String.ofList_toList]

end Gamebook
