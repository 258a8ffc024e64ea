import Gamebook.Text.Blank

namespace Gamebook

/-!
# Moods

A mood is a hint about how a passage is shown.  It has no effect on play.
-/

/-- How a passage feels. -/
inductive Mood
  | none
  | calm
  | happy
  | sad
  | tense
  | dark
  deriving DecidableEq, Repr, Inhabited

namespace Mood

/-- Every mood, in the order in which they are listed. -/
def all : List Mood := [.none, .calm, .happy, .sad, .tense, .dark]

/-- The word for a mood in scripts and documents. -/
def key : Mood → String
  | .none => "NONE"
  | .calm => "CALM"
  | .happy => "HAPPY"
  | .sad => "SAD"
  | .tense => "TENSE"
  | .dark => "DARK"

/-- The place of a mood in the list of all. -/
def index (mood : Mood) : Nat := all.idxOf mood

/-- The mood whose key is written, in capitals or small letters of ASCII, with
or without blanks around it. -/
def ofKey? (written : List Char) : Option Mood :=
  let word := (Text.trim written).map Char.toUpper
  all.find? fun mood => mood.key.toList = word

theorem solid_of_mem_key {mood : Mood} {c : Char} (member : c ∈ mood.key.toList) :
    Text.isBlankChar c = false := by
  have solid : (mood.key.toList.any Text.isBlankChar) = false := by
    cases mood <;> decide
  rw [List.any_eq_false] at solid
  exact Bool.eq_false_iff.mpr (solid c member)

/-- A mood is found by its key in any case, and blanks around it do not count. -/
theorem ofKey?_eq_some_iff {written : List Char} {mood : Mood} :
    ofKey? written = some mood ↔
      ∃ before key after, Text.isBlank before = true ∧ Text.isBlank after = true ∧
        key.map Char.toUpper = mood.key.toList ∧ written = before ++ (key ++ after) := by
  have found : ofKey? written = some mood ↔
      (Text.trim written).map Char.toUpper = mood.key.toList := by
    constructor
    · intro found
      have isKey := List.find?_some found
      exact (of_decide_eq_true isKey).symm
    · intro isKey
      rw [ofKey?, isKey]
      cases mood <;> decide
  rw [found]
  constructor
  · intro isKey
    rcases Text.exists_blank_trim_blank written with ⟨before, after, blankBefore, blankAfter, split⟩
    exact ⟨before, _, after, blankBefore, blankAfter, isKey, split⟩
  · rintro ⟨before, key, after, blankBefore, blankAfter, isKey, rfl⟩
    have solid : ∀ c ∈ key, Text.isBlankChar c = false := by
      intro c member
      cases blank : Text.isBlankChar c with
      | false => rfl
      | true =>
        have inKey : c.toUpper ∈ mood.key.toList := isKey ▸ List.mem_map_of_mem member
        rw [Text.toUpper_of_isBlankChar blank] at inKey
        exact (blank.symm.trans (solid_of_mem_key inKey))
    have trimmed := (Text.trim_eq_iff (Text.trim_eq_self_of_forall solid)).mpr
      ⟨before, after, blankBefore, blankAfter, rfl⟩
    rw [trimmed, isKey]

end Mood

end Gamebook
