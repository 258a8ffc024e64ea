import Gamebook.Text.Blank
import Gamebook.Text.Lines
import Gamebook.Text.Numeral

namespace Gamebook

/-!
# Limits on what a story and a player may hold

Every text of a story is a single line of bounded length, and every counter of
the player stays in its range.  Lengths count characters.  A few texts have
further rules, because the script format has no escapes: a passage's content
may not look like a header or an attribute, the two parts of a link may not
contain the mark that separates them, and an item's name may not contain the
marks of an action line.
-/

/-- The least and the greatest value that are allowed. -/
structure Bounds where
  least : Nat
  most : Nat
  deriving DecidableEq, Repr

/-- Says whether the value lies within the bounds, both ends included. -/
def Bounds.admits (bounds : Bounds) (value : Nat) : Bool :=
  bounds.least ≤ value && value ≤ bounds.most

namespace Limits

def storyTitle : Bounds := ⟨1, 40⟩

def passageTitle : Bounds := ⟨1, 20⟩

def passageContent : Bounds := ⟨1, 400⟩

def linkText : Bounds := ⟨1, 40⟩

/-- A reference names a passage, so it is bounded as a passage title is. -/
def linkReference : Bounds := passageTitle

def playerName : Bounds := ⟨1, 20⟩

def itemName : Bounds := ⟨1, 30⟩

def health : Bounds := ⟨0, 1000⟩

def score : Bounds := ⟨0, 100000⟩

def gold : Bounds := ⟨0, 100000⟩

/-- The number of items that a player can carry. -/
def inventory : Nat := 20

/-- The characters that structure an action line. -/
def itemMarks : List Char := [',', '\x7b', '\x7d']

/-- The openings by which a script line is a header or an attribute. -/
def contentOpenings : List String := ["::", "@"]

/-- The mark between the two parts of a link line. -/
def linkSeparator : String := "]("

end Limits

/-- A rule of the story or of the player that a value breaks. -/
inductive Violation
  | blank (field : String)
  | lineBreak (field : String)
  | length (field : String) (bounds : Bounds) (actual : Nat)
  | outOfRange (field : String) (value : Int) (bounds : Bounds)
  | reservedChar (field : String) (mark : Char)
  | reservedSequence (field : String) (sequence : String)
  | reservedOpening (field : String) (opening : String)
  | padded (field : String)
  | duplicateLink (text reference : String)
  | inventoryFull (capacity : Nat)
  | misfiledPassage (key title : String)
  | duplicateTitle (title : String)
  deriving DecidableEq, Repr

def Violation.message : Violation → String
  | .blank field => field ++ " must not be blank"
  | .lineBreak field => field ++ " must fit on a single line"
  | .length field bounds actual =>
    field ++ " must be " ++ Text.decimal bounds.least ++ "-" ++ Text.decimal bounds.most ++
      " characters long (got " ++ Text.decimal actual ++ ")"
  | .outOfRange field value bounds =>
    field ++ " would become " ++ Text.decimal value ++ ", outside " ++
      Text.decimal bounds.least ++ "..=" ++ Text.decimal bounds.most
  | .reservedChar field mark => field ++ " must not contain '" ++ mark.toString ++ "'"
  | .reservedSequence field sequence => field ++ " must not contain \"" ++ sequence ++ "\""
  | .reservedOpening field opening => field ++ " must not start with \"" ++ opening ++ "\""
  | .padded field => field ++ " must not start or end with whitespace"
  | .duplicateLink text reference =>
    "passage already has a link [" ++ text ++ "](" ++ reference ++ ")"
  | .inventoryFull capacity => "inventory is full (" ++ Text.decimal capacity ++ " items)"
  | .misfiledPassage key title => "passage stored under '" ++ key ++ "' is titled '" ++ title ++ "'"
  | .duplicateTitle title => "passage title '" ++ title ++ "' is already used in this story"

/-! ## Computations that may be refused -/

@[simp] theorem ok_bind {ε α β : Type} (value : α) (rest : α → Except ε β) :
    (Except.ok value >>= rest) = rest value := rfl

@[simp] theorem error_bind {ε α β : Type} (error : ε) (rest : α → Except ε β) :
    (Except.error error >>= rest) = .error error := rfl

/-- What is refused is not accepted. -/
theorem error_ne_ok {ε α : Type} {error : ε} {value : α} :
    (Except.error error : Except ε α) ≠ .ok value := by
  simp only [ne_eq, reduceCtorEq, not_false_eq_true]

/-- What comes of two steps, when neither is refused. -/
theorem bind_eq_ok_iff {ε α β : Type} {first : Except ε α} {rest : α → Except ε β} {value : β} :
    (first >>= rest) = .ok value ↔ ∃ between, first = .ok between ∧ rest between = .ok value := by
  cases first <;> simp

/-- A refusal comes from the first of two steps, or from the second behind it. -/
theorem bind_eq_error_iff {ε α β : Type} {first : Except ε α} {rest : α → Except ε β} {error : ε} :
    (first >>= rest) = .error error ↔
      first = .error error ∨ ∃ between, first = .ok between ∧ rest between = .error error := by
  cases first <;> simp

/-- A first test that is passed leaves the decision to the second. -/
theorem seq_eq_ok_iff {ε α : Type} {first : Except ε Unit} {second : Except ε α} {value : α} :
    (do first; second) = .ok value ↔ first = .ok () ∧ second = .ok value := by
  cases first <;> simp

/-- Whether a value is accepted can be computed. -/
instance decidableAccepted {ε : Type} (result : Except ε Unit) : Decidable (result = .ok ()) :=
  match result with
  | .ok () => isTrue rfl
  | .error _ => isFalse nofun

/-! ## The rules

Each rule either accepts a value or names what it breaks.  The order of the
tests is part of the rule, since a value may break several. -/

namespace Rule

/-- A single line that is not blank and whose length is in bounds. -/
def text (field : String) (bounds : Bounds) (value : String) : Except Violation Unit :=
  if Text.isBlank value.toList then .error (.blank field)
  else if value.toList.any fun c => c = '\n' || c = '\r' then .error (.lineBreak field)
  else if bounds.admits value.length then .ok ()
  else .error (.length field bounds value.length)

/-- Content is text that does not open as a header or an attribute does. -/
def content (field : String) (value : String) : Except Violation Unit := do
  text field Limits.passageContent value
  match Limits.contentOpenings.find? fun opening => opening.toList.isPrefixOf value.toList with
  | some opening => .error (.reservedOpening field opening)
  | none => .ok ()

/-- A part of a link is text without the mark between the two parts. -/
def linkPart (field : String) (bounds : Bounds) (value : String) : Except Violation Unit := do
  text field bounds value
  if Text.contains Limits.linkSeparator.toList value.toList then
    .error (.reservedSequence field Limits.linkSeparator)
  else .ok ()

/-- An item's name is text without blanks around it and without the marks of an
action line. -/
def item (value : String) : Except Violation Unit := do
  text "inventory item" Limits.itemName value
  if Text.trim value.toList ≠ value.toList then .error (.padded "inventory item")
  else
    match value.toList.find? fun c => Limits.itemMarks.contains c with
    | some mark => .error (.reservedChar "inventory item" mark)
    | none => .ok ()

/-- The value itself, when a counter with these bounds can have it. -/
def counter (field : String) (bounds : Bounds) (value : Int) : Except Violation Nat :=
  if 0 ≤ value ∧ bounds.admits value.toNat then .ok value.toNat
  else .error (.outOfRange field value bounds)

/-- The counter after a change, when the bounds admit it. -/
def change (field : String) (bounds : Bounds) (current : Nat) (amount : Int) :
    Except Violation Nat :=
  counter field bounds (current + amount)

/-! ## What is accepted -/

theorem text_eq_ok_iff {field : String} {bounds : Bounds} {value : String} :
    text field bounds value = .ok () ↔
      Text.isBlank value.toList = false ∧ Text.IsLine value.toList ∧
        bounds.admits value.length = true := by
  have isLine_iff : Text.IsLine value.toList ↔
      (value.toList.any fun c => c = '\n' || c = '\r') = false := by
    simp [Text.IsLine]
  rw [isLine_iff, text]
  cases Text.isBlank value.toList <;>
    cases (value.toList.any fun c => c = '\n' || c = '\r') <;>
    cases bounds.admits value.length <;> simp

theorem content_eq_ok_iff {field value : String} :
    content field value = .ok () ↔
      text field Limits.passageContent value = .ok () ∧
        ∀ opening ∈ Limits.contentOpenings, ¬ opening.toList <+: value.toList := by
  rw [content, seq_eq_ok_iff]
  refine and_congr Iff.rfl ?_
  cases found : Limits.contentOpenings.find? fun opening =>
      opening.toList.isPrefixOf value.toList with
  | none => simpa using found
  | some opening =>
    have opens := List.find?_some found
    have member := List.mem_of_find?_eq_some found
    rw [List.isPrefixOf_iff_prefix] at opens
    simp only [reduceCtorEq, false_iff]
    exact fun apart => apart opening member opens

theorem linkPart_eq_ok_iff {field value : String} {bounds : Bounds} :
    linkPart field bounds value = .ok () ↔
      text field bounds value = .ok () ∧
        Text.contains Limits.linkSeparator.toList value.toList = false := by
  rw [linkPart, seq_eq_ok_iff]
  refine and_congr Iff.rfl ?_
  cases Text.contains Limits.linkSeparator.toList value.toList <;> simp

theorem item_eq_ok_iff {value : String} :
    item value = .ok () ↔
      text "inventory item" Limits.itemName value = .ok () ∧
        Text.trim value.toList = value.toList ∧ ∀ mark ∈ Limits.itemMarks, mark ∉ value.toList := by
  rw [item, seq_eq_ok_iff]
  refine and_congr Iff.rfl ?_
  by_cases trimmed : Text.trim value.toList = value.toList
  · rw [if_neg (not_not_intro trimmed)]
    cases found : value.toList.find? fun c => Limits.itemMarks.contains c with
    | none =>
      simp only [true_iff]
      rw [List.find?_eq_none] at found
      refine ⟨trimmed, fun mark listed member => found mark member ?_⟩
      exact List.contains_iff_mem.mpr listed
    | some mark =>
      have listed := List.contains_iff_mem.mp (List.find?_some found)
      simp only [reduceCtorEq, false_iff]
      exact fun accepted => accepted.2 mark listed (List.mem_of_find?_eq_some found)
  · simp [trimmed]

/-- Text that is accepted has a first character. -/
theorem ne_nil_of_text {field : String} {bounds : Bounds} {value : String}
    (accepted : text field bounds value = .ok ()) : value.toList ≠ [] := by
  intro empty
  have solid := (text_eq_ok_iff.mp accepted).1
  rw [empty] at solid
  exact Bool.noConfusion solid

theorem isLine_of_text {field : String} {bounds : Bounds} {value : String}
    (accepted : text field bounds value = .ok ()) : Text.IsLine value.toList :=
  (text_eq_ok_iff.mp accepted).2.1

theorem counter_eq_ok_iff {field : String} {bounds : Bounds} {value : Int} {count : Nat} :
    counter field bounds value = .ok count ↔ value = count ∧ bounds.admits count = true := by
  rw [counter]
  by_cases inside : 0 ≤ value ∧ bounds.admits value.toNat = true
  · rw [if_pos inside, Except.ok.injEq]
    constructor
    · rintro rfl
      exact ⟨(Int.toNat_of_nonneg inside.1).symm, inside.2⟩
    · rintro ⟨rfl, -⟩
      rfl
  · rw [if_neg inside]
    simp only [reduceCtorEq, false_iff]
    rintro ⟨rfl, admitted⟩
    exact inside ⟨Int.natCast_nonneg count, admitted⟩

end Rule

end Gamebook
