import Gamebook.Link
import Gamebook.Mood

namespace Gamebook

/-!
# Passages

A passage is one screen of the story: a title, a line of content, a mood, and
the links that lead on from it in the order in which they are offered.  A
passage that is for a single visit is not offered again once it was visited.
-/

/-- One screen of a story. -/
structure Passage where
  title : String
  content : String
  mood : Mood
  singleVisit : Bool
  links : List Link
  deriving DecidableEq, Repr

namespace Passage

/-- A passage without links, without a mood, for any number of visits. -/
def create (title content : String) : Except Violation Passage := do
  Rule.text "passage title" Limits.passageTitle title
  Rule.content "passage content" content
  .ok { title, content, mood := .none, singleVisit := false, links := [] }

/-- The link with the given key, if the passage has one. -/
def link? (passage : Passage) (key : LinkKey) : Option Link :=
  passage.links.find? fun link => link.key = key

/-- Says whether the passage has a link with the given key. -/
def hasLink (passage : Passage) (key : LinkKey) : Bool :=
  passage.links.any fun link => link.key = key

def isEnding (passage : Passage) : Bool := passage.links.isEmpty

def withContent (passage : Passage) (content : String) : Except Violation Passage := do
  Rule.content "passage content" content
  .ok { passage with content }

/-- The passage with one more link at the end.  No two links of a passage have
the same key. -/
def addLink (passage : Passage) (link : Link) : Except Violation Passage :=
  if passage.hasLink link.key then .error (.duplicateLink link.text link.reference)
  else .ok { passage with links := passage.links ++ [link] }

/-- The passage with more links, added in order. -/
def addLinks : Passage → List Link → Except Violation Passage
  | passage, [] => .ok passage
  | passage, link :: links => do addLinks (← passage.addLink link) links

/-- Remove the links that lead to the title: how many they were, and the passage
without them. -/
def removeLinksTo (passage : Passage) (title : String) : Nat × Passage :=
  let kept := passage.links.filter fun link => link.reference ≠ title
  (passage.links.length - kept.length, { passage with links := kept })

/-- The number of links that lead to the title. -/
def linksTo (passage : Passage) (title : String) : Nat := (passage.removeLinksTo title).1

/-- The passage without the links that lead to the title. -/
def dropLinksTo (passage : Passage) (title : String) : Passage := (passage.removeLinksTo title).2

/-! ## Edits -/

/-- A change to a passage.  Its title never changes. -/
inductive Edit
  | content (text : String)
  | mood (mood : Mood)
  | singleVisit (on : Bool)
  | addLink (link : Link)
  | dropLinksTo (title : String)
  deriving Repr

/-- The passage after an edit, or the rule that forbids it. -/
def edit (passage : Passage) : Edit → Except Violation Passage
  | .content text => passage.withContent text
  | .mood mood => .ok { passage with mood }
  | .singleVisit on => .ok { passage with singleVisit := on }
  | .addLink link => passage.addLink link
  | .dropLinksTo title => .ok (passage.dropLinksTo title)

/-- What is asked of the parts that an edit brings: a link that is added was made
by the library. -/
def Edit.WellFormed : Edit → Prop
  | .addLink link => link.WellFormed
  | .content _ | .mood _ | .singleVisit _ | .dropLinksTo _ => True

instance Edit.decidableWellFormed (edit : Edit) : Decidable edit.WellFormed :=
  match edit with
  | .addLink link => inferInstanceAs (Decidable link.WellFormed)
  | .content _ | .mood _ | .singleVisit _ | .dropLinksTo _ => inferInstanceAs (Decidable True)

/-! ## Comparison -/

/-- Compare two lists element by element, up to the end of the shorter. -/
def agree {α : Type} (same : α → α → Bool) : List α → List α → Bool
  | x :: xs, y :: ys => same x y && agree same xs ys
  | _, _ => true

/-- Says whether the passages agree in all but the actions of their links. -/
def alike (a b : Passage) : Bool :=
  a.title = b.title && a.content = b.content && a.mood = b.mood &&
    a.singleVisit = b.singleVisit && a.links.length = b.links.length &&
    agree Link.alike a.links b.links

/-- Says whether the passages agree in every field, actions included. -/
def identical (a b : Passage) : Bool :=
  a.alike b && agree Link.identical a.links b.links

/-- What holds of every passage that the library makes. -/
structure WellFormed (passage : Passage) : Prop where
  title : Rule.text "passage title" Limits.passageTitle passage.title = .ok ()
  content : Rule.content "passage content" passage.content = .ok ()
  links : ∀ link ∈ passage.links, link.WellFormed
  keys : (passage.links.map Link.key).Nodup

theorem wellFormed_iff {passage : Passage} :
    passage.WellFormed ↔
      Rule.text "passage title" Limits.passageTitle passage.title = .ok () ∧
        Rule.content "passage content" passage.content = .ok () ∧
          (∀ link ∈ passage.links, link.WellFormed) ∧ (passage.links.map Link.key).Nodup :=
  ⟨fun h => ⟨h.title, h.content, h.links, h.keys⟩, fun h => ⟨h.1, h.2.1, h.2.2.1, h.2.2.2⟩⟩

instance decidableWellFormed (passage : Passage) : Decidable passage.WellFormed :=
  decidable_of_iff _ wellFormed_iff.symm

/-- A link that is found is one of the passage's and has the key. -/
theorem mem_of_link? {passage : Passage} {key : LinkKey} {link : Link}
    (found : passage.link? key = some link) : link ∈ passage.links ∧ link.key = key := by
  have isKey := List.find?_some found
  exact ⟨List.mem_of_find?_eq_some found, of_decide_eq_true isKey⟩

/-! ## Building -/

theorem create_of_wellFormed {passage : Passage} (wellFormed : passage.WellFormed) :
    create passage.title passage.content =
      .ok { passage with mood := .none, singleVisit := false, links := [] } := by
  rw [create, wellFormed.title, ok_bind, wellFormed.content, ok_bind]

theorem create_eq_ok_iff {title content : String} {passage : Passage} :
    create title content = .ok passage ↔
      Rule.text "passage title" Limits.passageTitle title = .ok () ∧
        Rule.content "passage content" content = .ok () ∧
          passage = ⟨title, content, .none, false, []⟩ := by
  rw [create, seq_eq_ok_iff, seq_eq_ok_iff, Except.ok.injEq, eq_comm (a := passage)]

theorem hasLink_iff {passage : Passage} {key : LinkKey} :
    passage.hasLink key = true ↔ key ∈ passage.links.map Link.key := by
  rw [hasLink, List.any_eq_true, List.mem_map]
  simp only [decide_eq_true_eq]

/-- A link is added when the passage has none with its key. -/
theorem addLink_eq_ok_iff {passage after : Passage} {link : Link} :
    passage.addLink link = .ok after ↔
      link.key ∉ passage.links.map Link.key ∧
        after = { passage with links := passage.links ++ [link] } := by
  rw [← hasLink_iff, addLink]
  split
  · next taken => simp [taken]
  · next fresh => simp [fresh, eq_comm (a := after)]

theorem addLink_of_fresh {passage : Passage} {link : Link}
    (fresh : link.key ∉ passage.links.map Link.key) :
    passage.addLink link = .ok { passage with links := passage.links ++ [link] } :=
  addLink_eq_ok_iff.mpr ⟨fresh, rfl⟩

/-- Links with different keys are all added, in their order. -/
theorem addLinks_of_nodup {passage : Passage} {links : List Link}
    (distinct : ((passage.links ++ links).map Link.key).Nodup) :
    passage.addLinks links = .ok { passage with links := passage.links ++ links } := by
  induction links generalizing passage with
  | nil => simp [addLinks]
  | cons link links ih =>
    have fresh : link.key ∉ passage.links.map Link.key := by
      rw [List.map_append, List.nodup_append] at distinct
      exact fun member => distinct.2.2 link.key member link.key List.mem_cons_self rfl
    have rest := @ih { passage with links := passage.links ++ [link] } (by
      simpa only [List.append_assoc, List.singleton_append] using distinct)
    rw [addLinks, addLink_of_fresh fresh, ok_bind, rest]
    simp only [List.append_assoc, List.singleton_append]

/-- Links are all added when no two of the passage's links, old or new, have the
same key. -/
theorem addLinks_eq_ok_iff {passage after : Passage} {links : List Link}
    (distinct : (passage.links.map Link.key).Nodup) :
    passage.addLinks links = .ok after ↔
      ((passage.links ++ links).map Link.key).Nodup ∧
        after = { passage with links := passage.links ++ links } := by
  constructor
  · intro added
    induction links generalizing passage with
    | nil =>
      cases added
      rw [List.append_nil]
      exact ⟨distinct, rfl⟩
    | cons link links ih =>
      rcases bind_eq_ok_iff.mp added with ⟨between, first, rest⟩
      rcases addLink_eq_ok_iff.mp first with ⟨fresh, rfl⟩
      have distinct' : ((passage.links ++ [link]).map Link.key).Nodup := by
        rw [List.map_append, List.map_singleton, List.nodup_append]
        refine ⟨distinct, List.pairwise_singleton _ _, ?_⟩
        intro old member new isNew same
        rw [List.mem_singleton.mp isNew] at same
        exact fresh (same ▸ member)
      simpa only [List.append_assoc, List.singleton_append] using ih distinct' rest
  · rintro ⟨distinct', rfl⟩
    exact addLinks_of_nodup distinct'

/-- The links that are removed are those that lead to the title, each counted once. -/
theorem linksTo_eq_countP (passage : Passage) (title : String) :
    passage.linksTo title = passage.links.countP fun link => link.reference = title := by
  have parts := passage.links.length_eq_countP_add_countP fun link => link.reference = title
  simp only [decide_eq_true_eq] at parts
  simp only [linksTo, removeLinksTo, ← List.countP_eq_length_filter, ne_eq]
  omega

/-! ## Staying well-formed -/

theorem wellFormed_of_create {title content : String} {passage : Passage}
    (created : create title content = .ok passage) : passage.WellFormed := by
  rcases create_eq_ok_iff.mp created with ⟨isTitle, isContent, rfl⟩
  exact ⟨isTitle, isContent, List.forall_mem_nil _, .nil⟩

/-- The mood and the number of visits are free. -/
theorem WellFormed.withAttributes {passage : Passage} (wellFormed : passage.WellFormed)
    (mood : Mood) (singleVisit : Bool) : WellFormed { passage with mood, singleVisit } :=
  ⟨wellFormed.title, wellFormed.content, wellFormed.links, wellFormed.keys⟩

theorem WellFormed.addLinks {passage after : Passage} (wellFormed : passage.WellFormed)
    {links : List Link} (areLinks : ∀ link ∈ links, link.WellFormed)
    (added : passage.addLinks links = .ok after) : after.WellFormed := by
  rcases (addLinks_eq_ok_iff wellFormed.keys).mp added with ⟨distinct, rfl⟩
  exact ⟨wellFormed.title, wellFormed.content,
    List.forall_mem_append.mpr ⟨wellFormed.links, areLinks⟩, distinct⟩

theorem WellFormed.dropLinksTo {passage : Passage} (wellFormed : passage.WellFormed)
    (title : String) : (passage.dropLinksTo title).WellFormed where
  title := wellFormed.title
  content := wellFormed.content
  links := fun link member => wellFormed.links link (List.mem_filter.mp member).1
  keys := wellFormed.keys.sublist (List.filter_sublist.map Link.key)

/-- An edit that is not refused keeps the title, and it keeps the passage
well-formed. -/
theorem WellFormed.edit {passage after : Passage} (wellFormed : passage.WellFormed) {edit : Edit}
    (parts : edit.WellFormed) (edited : passage.edit edit = .ok after) :
    after.WellFormed ∧ after.title = passage.title := by
  cases edit with
  | content text =>
    rcases seq_eq_ok_iff.mp edited with ⟨isContent, same⟩
    cases same
    exact ⟨⟨wellFormed.title, isContent, wellFormed.links, wellFormed.keys⟩, rfl⟩
  | mood mood =>
    cases edited
    exact ⟨wellFormed.withAttributes mood passage.singleVisit, rfl⟩
  | singleVisit on =>
    cases edited
    exact ⟨wellFormed.withAttributes passage.mood on, rfl⟩
  | addLink link =>
    have asLinks : passage.addLinks [link] = .ok after := by
      rw [Passage.addLinks, show passage.addLink link = .ok after from edited]
      rfl
    rcases addLink_eq_ok_iff.mp edited with ⟨-, rfl⟩
    exact ⟨wellFormed.addLinks (List.forall_mem_singleton.mpr parts) asLinks, rfl⟩
  | dropLinksTo title =>
    cases edited
    exact ⟨wellFormed.dropLinksTo title, rfl⟩

/-! ## Comparing -/

theorem agree_self {α : Type} {same : α → α → Bool} (reflexive : ∀ x, same x x = true)
    (xs : List α) : agree same xs xs = true := by
  induction xs with
  | nil => rfl
  | cons x xs ih => rw [agree, reflexive, ih, Bool.and_self]

@[simp] theorem identical_self (passage : Passage) : passage.identical passage = true := by
  simp [identical, alike, agree_self Link.alike_self, agree_self Link.identical_self]

end Passage

end Gamebook
