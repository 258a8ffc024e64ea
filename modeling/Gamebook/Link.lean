import Gamebook.Action

namespace Gamebook

/-!
# Links

A link is a choice on a passage: its text, the title of the passage that it
leads to, and the actions that following it brings.  Two links with the same
text and reference are the same choice, whatever their actions.
-/

/-- What tells choices apart: the text and the reference. -/
structure LinkKey where
  text : String
  reference : String
  deriving DecidableEq, Repr

namespace LinkKey

/-- The key under which a story holds the passage with this title. -/
def toPassage (title : String) : LinkKey := ⟨title, title⟩

/-- Keys are ordered by their texts, and then by their references. -/
instance : LT LinkKey where
  lt a b := a.text < b.text ∨ (a.text = b.text ∧ a.reference < b.reference)

instance (a b : LinkKey) : Decidable (a < b) :=
  inferInstanceAs (Decidable (a.text < b.text ∨ (a.text = b.text ∧ a.reference < b.reference)))

theorem toPassage_inj {a b : String} : toPassage a = toPassage b ↔ a = b :=
  ⟨congrArg LinkKey.text, congrArg toPassage⟩

/-- The keys of passages are in the order of the titles. -/
theorem toPassage_lt_iff {a b : String} : toPassage a < toPassage b ↔ a < b :=
  ⟨fun below => below.elim id And.right, .inl⟩

/-- Keys that are not ordered either way are the same. -/
instance : Std.Trichotomous (α := LinkKey) (· < ·) where
  trichotomous a b notBelow notAbove := by
    rcases a with ⟨text, reference⟩
    rcases b with ⟨text', reference'⟩
    have sameText : text = text' :=
      Std.Trichotomous.trichotomous text text' (fun below => notBelow (.inl below))
        (fun above => notAbove (.inl above))
    have sameReference : reference = reference' :=
      Std.Trichotomous.trichotomous reference reference'
        (fun below => notBelow (.inr ⟨sameText, below⟩))
        (fun above => notAbove (.inr ⟨sameText.symm, above⟩))
    rw [sameText, sameReference]

instance : Trans (α := LinkKey) (· < ·) (· < ·) (· < ·) where
  trans := by
    rintro a b c (text | ⟨text, reference⟩) (text' | ⟨text', reference'⟩)
    · exact .inl (String.lt_trans text text')
    · exact .inl (text' ▸ text)
    · exact .inl (text ▸ text')
    · exact .inr ⟨text.trans text', String.lt_trans reference reference'⟩

end LinkKey

/-- A choice with its actions, which are executed in order. -/
structure Link where
  key : LinkKey
  actions : List Action
  deriving DecidableEq, Repr

namespace Link

/-- A link without actions. -/
def create (text reference : String) : Except Violation Link := do
  Rule.linkPart "link text" Limits.linkText text
  Rule.linkPart "link reference" Limits.linkReference reference
  .ok ⟨⟨text, reference⟩, []⟩

/-- The label of the choice. -/
def text (link : Link) : String := link.key.text

/-- The title of the passage that the link leads to. -/
def reference (link : Link) : String := link.key.reference

def withActions (link : Link) (actions : List Action) : Link := { link with actions }

def addAction (link : Link) (action : Action) : Link :=
  { link with actions := link.actions ++ [action] }

/-- Says whether the links are the same choice. -/
def alike (a b : Link) : Bool := a.key = b.key

/-- Says whether the links are the same choice with the same actions. -/
def identical (a b : Link) : Bool := a.key = b.key && a.actions = b.actions

/-- What holds of every link that the library makes. -/
structure WellFormed (link : Link) : Prop where
  text : Rule.linkPart "link text" Limits.linkText link.text = .ok ()
  reference : Rule.linkPart "link reference" Limits.linkReference link.reference = .ok ()
  actions : ∀ action ∈ link.actions, action.Valid

theorem wellFormed_iff {link : Link} :
    link.WellFormed ↔
      Rule.linkPart "link text" Limits.linkText link.text = .ok () ∧
        Rule.linkPart "link reference" Limits.linkReference link.reference = .ok () ∧
          ∀ action ∈ link.actions, action.Valid :=
  ⟨fun h => ⟨h.text, h.reference, h.actions⟩, fun h => ⟨h.1, h.2.1, h.2.2⟩⟩

instance decidableWellFormed (link : Link) : Decidable link.WellFormed :=
  decidable_of_iff _ wellFormed_iff.symm

theorem create_of_wellFormed {link : Link} (wellFormed : link.WellFormed) :
    create link.text link.reference = .ok ⟨link.key, []⟩ := by
  rw [create, wellFormed.text, ok_bind, wellFormed.reference, ok_bind]
  rfl

theorem create_eq_ok_iff {text reference : String} {link : Link} :
    create text reference = .ok link ↔
      Rule.linkPart "link text" Limits.linkText text = .ok () ∧
        Rule.linkPart "link reference" Limits.linkReference reference = .ok () ∧
          link = ⟨⟨text, reference⟩, []⟩ := by
  rw [create, seq_eq_ok_iff, seq_eq_ok_iff, Except.ok.injEq, eq_comm (a := link)]

theorem wellFormed_of_create {text reference : String} {link : Link}
    (created : create text reference = .ok link) : link.WellFormed := by
  rcases create_eq_ok_iff.mp created with ⟨isText, isReference, rfl⟩
  exact ⟨isText, isReference, List.forall_mem_nil _⟩

theorem WellFormed.withActions {link : Link} (wellFormed : link.WellFormed) {actions : List Action}
    (valid : ∀ action ∈ actions, action.Valid) : (link.withActions actions).WellFormed :=
  ⟨wellFormed.text, wellFormed.reference, valid⟩

@[simp] theorem identical_self (link : Link) : link.identical link = true := by
  simp [identical]

@[simp] theorem alike_self (link : Link) : link.alike link = true := by
  simp [alike]

end Link

end Gamebook
