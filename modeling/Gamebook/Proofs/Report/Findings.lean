import Mathlib.Data.List.Forall2
import Gamebook.Proofs.Report.Endings
import Gamebook.Proofs.Session.Choice
import Gamebook.Proofs.Story.Dangling

namespace Gamebook

/-!
# What a report finds

A report looks for broken links twice.  One walk through the story makes a finding of
every link that leads nowhere; another collects the keys of these links, and a session
makes that second walk once more when it starts.  The walks know nothing of each other,
and the same key may be broken on many passages, so findings and keys do not agree in
their number.

The findings are described by the places at which links stand.  A place is a passage and
the number of one of its links.  The places of the broken links come in the order in which
the passages and their links are shown, each once, and each of them is a finding.  The
broken keys are then those that the findings name.
-/

namespace Story

/-- Where a link stands: the title of the passage, and the number of the link on it. -/
structure Place where
  passage : String
  link : Nat
  deriving DecidableEq, Repr

/-- The order of places.  The opening comes first, the other passages follow in the order
of their titles, and on a passage the links come as they are shown. -/
inductive Before (story : Story) : Place → Place → Prop
  | later (title : String) {m n : Nat} (less : m < n) : Before story ⟨title, m⟩ ⟨title, n⟩
  | opening {title : String} (away : title ≠ story.opening.title) (m n : Nat) :
    Before story ⟨story.opening.title, m⟩ ⟨title, n⟩
  | stored {first second : String} (less : first < second)
      (away : first ≠ story.opening.title) (away' : second ≠ story.opening.title) (m n : Nat) :
    Before story ⟨first, m⟩ ⟨second, n⟩

/-- Says that a link stands at a place of the story. -/
def StandsAt (story : Story) (place : Place) (link : Link) : Prop :=
  ∃ passage ∈ story.passages, passage.title = place.passage ∧
    passage.links[place.link]? = some link

/-- The finding of a broken link at a place. -/
def Place.finding (place : Place) (link : Link) : Finding :=
  .brokenLink place.passage link.text link.reference

/-- Says that findings report the links that lead to no passage: one finding for each
place at which such a link stands, in the order of the places. -/
structure ReportsBroken (story : Story) (places : List Place) (found : List Finding) : Prop where
  ordered : places.Pairwise story.Before
  complete : ∀ place, place ∈ places ↔
    ∃ link, story.StandsAt place link ∧ link.reference ∉ story.titles
  reported : List.Forall₂
    (fun place finding => ∃ link, story.StandsAt place link ∧ finding = place.finding link)
    places found

/-! ## Places of links -/

/-- The links of a passage with their places. -/
def placedOn (passage : Passage) : List (Place × Link) :=
  passage.links.zipIdx.map fun (link, number) => (⟨passage.title, number⟩, link)

/-- The links of a story with their places. -/
def placed (story : Story) : List (Place × Link) :=
  story.passages.flatMap placedOn

section

variable {story : Story}

theorem mem_placedOn_iff {passage : Passage} {place : Place} {link : Link} :
    (place, link) ∈ placedOn passage ↔
      passage.title = place.passage ∧ passage.links[place.link]? = some link := by
  rw [placedOn, List.mem_map]
  constructor
  · rintro ⟨⟨other, number⟩, listed, same⟩
    cases same
    exact ⟨rfl, List.mem_zipIdx_iff_getElem?.mp listed⟩
  · rintro ⟨title, stands⟩
    refine ⟨(link, place.link), List.mem_zipIdx_iff_getElem?.mpr stands, ?_⟩
    rw [title]

theorem mem_placed_iff {place : Place} {link : Link} :
    (place, link) ∈ story.placed ↔ story.StandsAt place link := by
  rw [placed, List.mem_flatMap]
  apply exists_congr
  intro passage
  rw [mem_placedOn_iff]

/-- Links are placed in the order in which the story lists them. -/
theorem map_placed (story : Story) :
    (story.placed.map fun (place, link) => (place.passage, link)) = story.titledLinks := by
  rw [placed, titledLinks_eq_flatMap, List.map_flatMap]
  congr 1
  funext passage
  conv_rhs => rw [← List.zipIdx_map_fst 0 passage.links]
  rw [placedOn, List.map_map, List.map_map]
  rfl

/-- The places on a passage are numbered upwards. -/
theorem ordered_placedOn (story : Story) (passage : Passage) :
    (placedOn passage).Pairwise fun a b => story.Before a.1 b.1 := by
  have numbered : (passage.links.zipIdx.map Prod.snd).Pairwise (· < ·) := by
    rw [List.zipIdx_map_snd]
    exact List.pairwise_lt_range'
  rw [List.pairwise_map] at numbered
  rw [placedOn, List.pairwise_map]
  apply numbered.imp
  intro a b less
  exact .later passage.title less

theorem title_of_mem_placedOn {passage : Passage} {placed : Place × Link}
    (member : placed ∈ placedOn passage) : placed.1.passage = passage.title :=
  (mem_placedOn_iff.mp member).1.symm

/-- No place comes twice, and all of them come in order: the opening's places are first,
and the stored passages are in the order of their titles. -/
theorem WellFormed.ordered_placed (wellFormed : story.WellFormed) :
    story.placed.Pairwise fun a b => story.Before a.1 b.1 := by
  rw [placed, List.pairwise_flatMap]
  refine ⟨fun passage _ => ordered_placedOn story passage, List.pairwise_cons.mpr ⟨?_, ?_⟩⟩
  · rintro passage stored ⟨⟨first, m⟩, _⟩ onOpening ⟨⟨second, n⟩, _⟩ onPassage
    cases title_of_mem_placedOn onOpening
    cases title_of_mem_placedOn onPassage
    exact .opening (wellFormed.openingApart passage stored) m n
  · apply wellFormed.ordered.imp_of_mem
    rintro passage other stored stored' less ⟨⟨first, m⟩, _⟩ onPassage ⟨⟨second, n⟩, _⟩ onOther
    cases title_of_mem_placedOn onPassage
    cases title_of_mem_placedOn onOther
    exact .stored less (wellFormed.openingApart passage stored)
      (wellFormed.openingApart other stored') m n

/-! ## Findings -/

/-- The links that lead to no passage, with their places. -/
def brokenPlaced (story : Story) : List (Place × Link) :=
  story.placed.filter fun (_, link) => story.isBroken link

theorem mem_brokenPlaced_iff {place : Place} {link : Link} :
    (place, link) ∈ story.brokenPlaced ↔
      story.StandsAt place link ∧ link.reference ∉ story.titles := by
  rw [brokenPlaced, List.mem_filter, mem_placed_iff, isBroken_iff]

theorem WellFormed.reportsBroken (wellFormed : story.WellFormed) :
    story.ReportsBroken (story.brokenPlaced.map Prod.fst)
      (story.brokenPlaced.map fun (place, link) => place.finding link) where
  ordered := List.pairwise_map.mpr (wellFormed.ordered_placed.filter _)
  complete place := by
    rw [List.mem_map]
    constructor
    · rintro ⟨⟨_, link⟩, broken, rfl⟩
      exact ⟨link, mem_brokenPlaced_iff.mp broken⟩
    · rintro ⟨link, broken⟩
      exact ⟨(place, link), mem_brokenPlaced_iff.mpr broken, rfl⟩
  reported := by
    rw [List.forall₂_map_left_iff, List.forall₂_map_right_iff, List.forall₂_same]
    rintro ⟨place, link⟩ broken
    exact ⟨link, (mem_brokenPlaced_iff.mp broken).1, rfl⟩

/-- The findings of a report, with those of the broken links told by their places. -/
theorem findings_ofStory (story : Story) :
    (Report.ofStory story).findings =
      (story.brokenPlaced.map fun (place, link) => place.finding link) ++
        story.unreachable.map .unreachable ++ story.deadEnds.map .deadEnd := by
  have byTitle : (story.brokenPlaced.map fun (place, link) => place.finding link) =
      (story.titledLinks.filter fun titled => story.isBroken titled.2).map
        fun titled => .brokenLink titled.1 titled.2.text titled.2.reference := by
    rw [← map_placed, List.filter_map, List.map_map]
    rfl
  rw [byTitle, titledLinks, List.filter_map, List.map_map]
  rfl

/-- A broken link is reported where it stands. -/
theorem brokenLink_mem_findings_iff {title text reference : String} :
    .brokenLink title text reference ∈ (Report.ofStory story).findings ↔
      ∃ number link, story.StandsAt ⟨title, number⟩ link ∧ link.key = ⟨text, reference⟩ ∧
        reference ∉ story.titles := by
  rw [findings_ofStory, List.append_assoc, List.mem_append, List.mem_map]
  constructor
  · rintro (⟨⟨place, link⟩, broken, same⟩ | other)
    · cases same
      rcases mem_brokenPlaced_iff.mp broken with ⟨stands, nowhere⟩
      exact ⟨place.link, link, stands, rfl, nowhere⟩
    · simp at other
  · rintro ⟨number, link, stands, isKey, nowhere⟩
    refine .inl ⟨(⟨title, number⟩, link), mem_brokenPlaced_iff.mpr ⟨stands, ?_⟩, ?_⟩
    · rw [Link.reference, isKey]
      exact nowhere
    · simp only [Place.finding, Link.text, Link.reference, isKey]

/-- Of a key that is broken some link is reported, and of no other key. -/
theorem mem_brokenLinks_iff_reported {key : LinkKey} :
    key ∈ story.brokenLinks ↔
      ∃ title, .brokenLink title key.text key.reference ∈ (Report.ofStory story).findings := by
  simp only [mem_brokenLinks_iff, brokenLink_mem_findings_iff]
  constructor
  · rintro ⟨⟨passage, member, offered⟩, nowhere⟩
    rcases List.mem_map.mp (Passage.hasLink_iff.mp offered) with ⟨link, onPassage, isKey⟩
    rcases List.mem_iff_getElem?.mp onPassage with ⟨number, stands⟩
    exact ⟨passage.title, number, link, ⟨passage, member, rfl, stands⟩, isKey, nowhere⟩
  · rintro ⟨title, number, link, ⟨passage, member, -, stands⟩, isKey, nowhere⟩
    refine ⟨⟨passage, member, ?_⟩, nowhere⟩
    rw [Passage.hasLink_iff, ← show link.key = key from isKey]
    exact List.mem_map_of_mem (List.mem_of_getElem? stands)

/-- The titles of the endings stand in the order of all titles. -/
theorem deadEnds_sublist (story : Story) : story.deadEnds.Sublist story.titles :=
  List.filter_sublist.map Passage.title

end

end Story

/-! ## Agreement -/

/-- Says that a report is what the single checks of a story find, and that what it says of
broken links is what sessions go by. -/
structure Report.Agrees (report : Report) (story : Story) : Prop where
  /-- The broken links come first, each of them wherever it stands, then the passages that
  cannot be reached, and then the endings. -/
  findings : ∃ places broken, story.ReportsBroken places broken ∧
    report.findings = broken ++ story.unreachable.map .unreachable ++ story.deadEnds.map .deadEnd
  unreachable : report.unreachable = story.unreachable ∧ Ascending id story.unreachable ∧
    ∀ title, title ∈ story.unreachable ↔
      title ∈ story.stored.map Passage.title ∧ ¬ story.Reaches title
  deadEnds : report.deadEnds = story.deadEnds ∧ story.deadEnds.Sublist story.titles ∧
    ∀ title, title ∈ story.deadEnds ↔
      ∃ passage ∈ story.passages, passage.links = [] ∧ passage.title = title
  brokenLinks : report.brokenLinks = story.brokenLinks ∧ Ascending id story.brokenLinks
  sessions : ∀ session : Session, session.Reachable → session.story = story →
    session.broken = story.brokenLinks
  /-- A key is broken when some link with it is reported, on whichever passage. -/
  reported : ∀ key, key ∈ story.brokenLinks ↔
    ∃ title, .brokenLink title key.text key.reference ∈ report.findings
  /-- That is so when some passage has a link with the key and none has the title to which
  it refers. -/
  dangling : ∀ key, key ∈ story.brokenLinks ↔
    (∃ passage ∈ story.passages, ∃ link ∈ passage.links, link.key = key) ∧
      ∀ passage ∈ story.passages, passage.title ≠ key.reference

/-- Whatever the links of a story are, its report, its single checks and its sessions agree
on which of them are broken, which passages cannot be reached and which end the story. -/
theorem Report.agrees_ofStory {story : Story} (wellFormed : story.WellFormed) :
    (Report.ofStory story).Agrees story where
  findings := ⟨_, _, wellFormed.reportsBroken, story.findings_ofStory⟩
  unreachable := ⟨rfl, ascendingBy_ascending id _, fun _ => Story.mem_unreachable_iff wellFormed⟩
  deadEnds := ⟨rfl, story.deadEnds_sublist, fun _ => Story.mem_deadEnds_iff⟩
  brokenLinks := ⟨rfl, ascendingBy_ascending id _⟩
  sessions := by
    rintro session reachable rfl
    exact (Session.standing_of_reachable reachable).broken
  reported _ := Story.mem_brokenLinks_iff_reported
  dangling key := by
    simp only [Story.mem_brokenLinks_iff, Passage.hasLink_iff, List.mem_map, Story.titles,
      not_exists, not_and]

/-- A moor on which two passages have the same link to a light that is not there. -/
def moor : Story where
  title := "The moor"
  opening :=
    ⟨"Moor", "Dusk.", .none, false, [⟨⟨"Follow", "Light"⟩, []⟩, ⟨⟨"Turn back", "Inn"⟩, []⟩]⟩
  filed := Story.filing
    [⟨"Bog", "Water.", .dark, false, []⟩,
      ⟨"Inn", "Warmth.", .calm, false,
        [⟨⟨"Stay", "Inn"⟩, []⟩, ⟨⟨"Follow", "Light"⟩, [.change .health (-1)]⟩]⟩]

/-- The light is reported twice and its key once. -/
theorem Report.agrees_ofStory_moor :
    moor.WellFormed ∧
      (Report.ofStory moor).findings =
        [.brokenLink "Moor" "Follow" "Light", .brokenLink "Inn" "Follow" "Light",
          .unreachable "Bog", .deadEnd "Bog"] ∧
      (Session.start ⟨⟨"Ada", 10, 0, 0, []⟩, moor, []⟩).broken = [⟨"Follow", "Light"⟩] ∧
      (Report.ofStory moor).Agrees moor := by
  have wellFormed : moor.WellFormed := by decide
  exact ⟨wellFormed, by decide, by decide, Report.agrees_ofStory wellFormed⟩

end Gamebook
