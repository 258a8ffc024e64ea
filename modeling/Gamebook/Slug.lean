import Gamebook.Text.Blank

namespace Gamebook

/-!
# Slugs

A slug is a file stem made from a title or from the name of a save slot.
Letters and digits of ASCII are kept in lower case, and a run of anything else
becomes one dash.  Underscores within a name are kept.
-/

namespace Slug

/-- Says whether the character is a letter or digit of ASCII. -/
def isKept (c : Char) : Bool :=
  ('a' ≤ c && c ≤ 'z') || ('A' ≤ c && c ≤ 'Z') || ('0' ≤ c && c ≤ '9')

/-- Says whether the character joins the words of a slug. -/
def isJoint (c : Char) : Bool := c = '-' || c = '_'

/-- The characters of a slug, joints at the end included.  `started` tells
whether one has been written, and `pending` whether something has been passed
over since. -/
def chars (started pending : Bool) : List Char → List Char
  | [] => []
  | c :: cs =>
    if isKept c then
      if pending && started then '-' :: c.toLower :: chars true false cs
      else c.toLower :: chars true false cs
    else if c = '_' && started then '_' :: chars true false cs
    else chars started true cs

/-- The text without joints at its end. -/
def dropJoints (cs : List Char) : List Char :=
  (cs.reverse.dropWhile isJoint).reverse

/-- The slug of a name.  A name with nothing that can be kept has the slug
`story`. -/
def ofChars (name : List Char) : List Char :=
  match dropJoints (chars false false name) with
  | [] => ['s', 't', 'o', 'r', 'y']
  | slug => slug

/-! ## The characters of a slug -/

/-- Only a dash that is still to be written comes on top of the characters. -/
theorem length_chars_le (started pending : Bool) (name : List Char) :
    (chars started pending name).length ≤ name.length + (pending && started).toNat := by
  induction name generalizing started pending with
  | nil => exact Nat.zero_le _
  | cons c name ih =>
    have going := ih true false
    have waiting := ih started true
    rw [chars]
    split
    · split
      · next dash =>
        rw [dash]
        simp only [List.length_cons, Bool.false_and, Bool.toNat_false, Bool.toNat_true] at going ⊢
        omega
      · simp only [List.length_cons, Bool.false_and, Bool.toNat_false] at going ⊢
        omega
    · split
      · simp only [List.length_cons, Bool.false_and, Bool.toNat_false] at going ⊢
        omega
      · have dash : (true && started).toNat ≤ 1 := Bool.toNat_le _
        rw [List.length_cons]
        omega

theorem dropJoints_isPrefix (cs : List Char) : dropJoints cs <+: cs := by
  rw [← List.reverse_suffix, dropJoints, List.reverse_reverse]
  exact List.dropWhile_suffix isJoint

theorem ofChars_ne_nil (name : List Char) : ofChars name ≠ [] := by
  unfold ofChars
  split
  · exact List.cons_ne_nil _ _
  · next nonempty => exact nonempty

/-- A slug is no longer than the name, or than the slug of an empty name. -/
theorem length_ofChars_le (name : List Char) : (ofChars name).length ≤ max 5 name.length := by
  have written := length_chars_le false false name
  have kept := (dropJoints_isPrefix (chars false false name)).length_le
  unfold ofChars
  split
  · exact Nat.le_max_left _ _
  · simp only [Bool.and_self, Bool.toNat_false] at written
    omega

end Slug

def slug (name : String) : String :=
  String.ofList (Slug.ofChars name.toList)

end Gamebook
