import Gamebook.Proofs.Report.Reachability
import Gamebook.Proofs.Session.Run

namespace Gamebook

/-!
# A run stays among the reachable passages

A report looks for reachable passages by following every link that leads to a
passage.  A session follows fewer links: one that may not be visited again is not
offered, and an action may forbid a choice.  The two know nothing of each other,
and they are compared here by the titles that links lead to: the visits of a
session go along links, so each of them is such a title, and the report finds all
of these.
-/

namespace Story

/-- Says that a title is called unreachable, by the story itself or by its report. -/
def CallsUnreachable (story : Story) (title : String) : Prop :=
  title ∈ story.unreachable ∨ title ∈ (Report.ofStory story).unreachable ∨
    .unreachable title ∈ (Report.ofStory story).findings

/-- What a report calls unreachable, in its list or among its findings, the story does
too. -/
theorem CallsUnreachable.mem_unreachable {story : Story} {title : String}
    (called : story.CallsUnreachable title) : title ∈ story.unreachable := by
  rcases called with listed | reported | finding
  · exact listed
  · exact reported
  · simpa [Report.ofStory] using finding

/-- A title to which a link leads from a reached title is reached, if it names a passage. -/
theorem Reaches.of_leads {story : Story} (keyed : story.KeyedByTitle) {before next : String}
    (reached : story.Reaches before) (leads : story.Leads before next)
    (named : next ∈ story.titles) : story.Reaches next := by
  rcases leads with ⟨passage, link, found, onPassage, rfl⟩
  rcases mem_of_find? keyed found with ⟨member, rfl⟩
  exact .link reached member onPassage named

end Story

namespace Session

/-- Links lead from the opening to every title that was visited. -/
theorem PlayedFrom.reaches {game : Game} (keyed : game.story.KeyedByTitle) {session : Session}
    (played : session.PlayedFrom game) :
    ∀ title ∈ session.visited, game.story.Reaches title := by
  have carried : session.visited.IsChain fun before next =>
      game.story.Reaches before → game.story.Reaches next := by
    refine played.linked.imp_of_mem_imp fun before next _ isVisited leads reached => ?_
    have named := (Story.isSome_find?_iff keyed).mp (played.resolved next isVisited)
    exact reached.of_leads keyed leads named
  refine carried.induction _ _ (fun _ _ step => step) fun nonempty => ?_
  have first := played.first
  rw [List.head?_eq_some_head nonempty] at first
  rw [Option.some.inj first]
  exact .opening

theorem PlayedFrom.current_mem_visited {game : Game} {session : Session}
    (played : session.PlayedFrom game) : session.current ∈ session.visited :=
  List.mem_of_getLast? played.last

/-- Whatever is chosen, a session stands on a passage that the search from the opening
finds, and so does every passage that it has visited.  None of them is ever called
unreachable. -/
theorem run_confined (game : Game) (wellFormed : game.WellFormed) (moves : List Move) :
    ∃ sights session, (start game).run moves = .ok (sights, session) ∧
      session.story = game.story ∧
      session.current ∈ game.story.reachable ∧
      (∀ title ∈ session.visited, title ∈ game.story.reachable) ∧
      ∀ title, game.story.CallsUnreachable title →
        title ≠ session.current ∧ title ∉ session.visited := by
  have keyed := wellFormed.story.keyed
  have begun := playedFrom_start keyed wellFormed.player
  have played := playedFrom_play wellFormed.story begun (moves.filterMap Move.key?)
  have within : ∀ title ∈ _, title ∈ game.story.reachable := fun title visited =>
    (Story.mem_reachable_iff wellFormed.story).mpr (played.reaches keyed title visited)
  refine ⟨_, _, run_eq_ok_play wellFormed begun moves, played.story,
    within _ played.current_mem_visited, within, fun title called => ?_⟩
  have unvisited : title ∉ _ := fun visited =>
    ((Story.mem_unreachable_iff wellFormed.story).mp called.mem_unreachable).2
      (played.reaches keyed title visited)
  refine ⟨?_, unvisited⟩
  rintro rfl
  exact unvisited played.current_mem_visited

/-- A game in which no link leads to one of the passages. -/
def island : Game where
  player := ⟨"Ada", 20, 0, 0, []⟩
  story :=
    { title := "The island"
      opening := ⟨"Beach", "Sand.", .calm, false, [⟨⟨"Climb", "Hill"⟩, []⟩, ⟨⟨"Swim", "Reef"⟩, []⟩]⟩
      filed := Story.filing
        [⟨"Cave", "Bats.", .dark, false, [⟨⟨"Leave", "Beach"⟩, []⟩]⟩,
          ⟨"Hill", "Wind.", .none, true, [⟨⟨"Descend", "Beach"⟩, []⟩]⟩] }
  goals := []

theorem run_confined_island :
    island.WellFormed ∧ island.story.CallsUnreachable "Cave" ∧
      ∃ sights session, (start island).run
          [.choose ⟨"Climb", "Hill"⟩, .reload, .choose ⟨"Swim", "Reef"⟩] = .ok (sights, session) ∧
        session.story = island.story ∧
        session.current ∈ island.story.reachable ∧
        (∀ title ∈ session.visited, title ∈ island.story.reachable) ∧
        ∀ title, island.story.CallsUnreachable title →
          title ≠ session.current ∧ title ∉ session.visited := by
  have wellFormed : island.WellFormed := ⟨by decide, by decide, List.forall_mem_nil _⟩
  exact ⟨wellFormed, .inl (by decide), run_confined island wellFormed _⟩

end Session
end Gamebook
