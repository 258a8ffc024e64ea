namespace Gamebook
namespace Text

/-!
# Sizes of texts

A text has as many bytes as its characters take in UTF-8, and other sizes are
added up from its characters in the same way.
-/

/-- The sum of the sizes of the characters. -/
def total (size : Char → Nat) (cs : List Char) : Nat :=
  cs.foldr (fun c rest => size c + rest) 0

/-- The number of bytes of the text in UTF-8. -/
def byteLength (cs : List Char) : Nat := total Char.utf8Size cs

@[simp] theorem total_nil (size : Char → Nat) : total size [] = 0 := rfl

@[simp] theorem total_cons (size : Char → Nat) (c : Char) (cs : List Char) :
    total size (c :: cs) = size c + total size cs := rfl

@[simp] theorem total_append (size : Char → Nat) (cs ds : List Char) :
    total size (cs ++ ds) = total size cs + total size ds := by
  induction cs with
  | nil => simp
  | cons c cs ih => simp [ih, Nat.add_assoc]

/-- A character takes at most four bytes. -/
theorem byteLength_le (cs : List Char) : byteLength cs ≤ 4 * cs.length := by
  induction cs with
  | nil => exact Nat.le_refl 0
  | cons c cs ih =>
    have first : c.utf8Size ≤ 4 := Char.utf8Size_le_four c
    rw [byteLength] at ih ⊢
    rw [total_cons, List.length_cons]
    omega

end Text
end Gamebook
