import Gamebook.Goal

namespace Gamebook

/-!
# One meaning in several spellings

An effect is written as a short form in a script and under a tag in a document.  A short
form opens with a letter, with the tag, or with another tag of the same meaning, and blanks
do not count around this word and around the value.  Under a tag a number stands as a
number or as a text that spells it.

All of this is read by one rule for each aspect, but it gets there by different routes.
What is shown is that no route changes the answer, and a refusal is an answer like any
other: it shows the same payload and gives the same reason.  Goals are less free: a minimum
may be spelled either way, but a number is no list of items.
-/

namespace Aspect

/-- Says that a token is a short form about the aspect with the given value.  The value is
everything behind the first colon, other colons and blanks included. -/
def Spells (aspect : Aspect) (token value : String) : Prop :=
  ∃ before word after : String,
    word ∈ aspect.words ∧ Text.isBlank before.toList = true ∧ Text.isBlank after.toList = true ∧
      token = before ++ word ++ after ++ ":" ++ value

end Aspect

/-! ## Short forms -/

/-- A colon is not lost among blanks. -/
theorem Text.colon_not_mem_of_isBlank {cs : List Char} (blank : isBlank cs = true) : ':' ∉ cs := by
  intro member
  have isBlankColon : isBlankChar ':' = true := List.all_eq_true.mp blank ':' member
  exact absurd isBlankColon (by decide)

namespace Action

theorem ofShort_of_spells {aspect : Aspect} {token value : String}
    (spelled : aspect.Spells token value) :
    ofShort token = ofPayload aspect (.text (String.ofList (Text.trim value.toList))) := by
  rcases spelled with ⟨before, word, after, isWord, blankBefore, blankAfter, rfl⟩
  rcases Aspect.plain_of_mem_words isWord with ⟨noColon, trimmed⟩
  have parts : (before ++ word ++ after ++ ":" ++ value).toList =
      (before.toList ++ (word.toList ++ after.toList)) ++ ':' :: value.toList := by
    simp
  -- Neither the blanks nor the word hold a colon, so the first one is that of the token.
  have apart : ':' ∉ before.toList ++ (word.toList ++ after.toList) := by
    rw [List.mem_append, List.mem_append, not_or, not_or]
    exact ⟨Text.colon_not_mem_of_isBlank blankBefore, noColon,
      Text.colon_not_mem_of_isBlank blankAfter⟩
  have opening : Text.trim (before.toList ++ (word.toList ++ after.toList)) = word.toList :=
    (Text.trim_eq_iff trimmed).mpr ⟨_, _, blankBefore, blankAfter, rfl⟩
  apply ofShort_of_mem_words apart parts
  rw [opening, String.ofList_toList]
  exact isWord

/-- Nothing else is read as a short form. -/
theorem exists_spells_of_ofShort {token : String} {action : Action}
    (read : ofShort token = .ok action) : ∃ value, action.aspect.Spells token value := by
  rcases ofShort_eq_ok_iff.mp read with ⟨before, after, aspect, -, parts, isWord, means⟩
  rw [← aspect_of_ofPayload means] at isWord
  -- What trimming has dropped before the colon are the blanks around the word.
  rcases Text.exists_blank_trim_blank before with ⟨first, last, blankFirst, blankLast, around⟩
  refine ⟨String.ofList after, String.ofList first, _, String.ofList last, isWord, ?_, ?_, ?_⟩
  · rw [String.toList_ofList]
    exact blankFirst
  · rw [String.toList_ofList]
    exact blankLast
  · apply String.toList_inj.mp
    calc token.toList = before ++ ':' :: after := parts
      _ = (first ++ (Text.trim before ++ last)) ++ ':' :: after := by rw [← around]
      _ = _ := by simp

end Action

/-! ## Numbers as text -/

/-- A number in a signed word is read back from its decimal text. -/
theorem Payload.asInteger_word (tag : String) (value : Int64) :
    (text (Text.decimal value.toInt)).asInteger tag = .ok value.toInt := by
  have least := value.le_toInt
  have most := value.toInt_lt
  apply asInteger_decimal <;> simp only [Text.NumeralRange.int64] <;> omega

/-- An amount is refused with its decimal text also where it stands as a number, and an
item may have a number for its name. -/
theorem Action.ofPayload_word (aspect : Aspect) (value : Int64) :
    ofPayload aspect (.number value.toInt) =
      ofPayload aspect (.text (Text.decimal value.toInt)) := by
  cases aspect with
  | counter counter =>
    rw [ofPayload, ofPayload, Payload.asInteger_word]
    rfl
  -- No number is asked for here, and the decimal text is the name.
  | inventory => rfl

theorem Goal.ofPayload_word (counter : Counter) (value : Int64) :
    ofPayload (.counter counter) (.number value.toInt) =
      ofPayload (.counter counter) (.text (Text.decimal value.toInt)) := by
  rw [ofPayload, ofPayload, Payload.asInteger_word]
  rfl

/-- A number is no list of items, though its text is one. -/
example :
    Goal.ofTag "mandatoryItems" (.number 7) =
        .error (.invalidPayload "mandatoryItems" "7" "expected a list of items") ∧
      Goal.ofTag "mandatoryItems" (.text "7") = .ok (.carry ["7"]) :=
  ⟨rfl, rfl⟩

/-! ## Written forms -/

/-- The actions that come back from their written form are the valid ones. -/
theorem Action.ofEntry_toEntry_iff {action : Action} :
    ofEntry action.toEntry = .ok action ↔ action.Valid :=
  ⟨valid_of_ofEntry, ofEntry_toEntry⟩

/-- The goals that come back from their written form are the valid ones. -/
theorem Goal.ofEntry_toEntry_iff {goal : Goal} :
    ofEntry goal.toEntry = .ok goal ↔ goal.Valid :=
  ⟨valid_of_ofEntry, ofEntry_toEntry⟩

/-! ## All spellings -/

namespace Aspect

/-- Says that what is written about an aspect means the same in all its spellings. -/
structure SpelledAlike (aspect : Aspect) : Prop where
  short : ∀ token value, aspect.Spells token value → ∀ tag ∈ aspect.tags,
    Action.ofShort token = Action.ofTag tag (.text (String.ofList (Text.trim value.toList)))
  spelled : ∀ token action, Action.ofShort token = .ok action → action.aspect = aspect →
    ∃ value, aspect.Spells token value
  amount : ∀ tag ∈ aspect.tags, ∀ amount : Int64,
    Action.ofTag tag (.number amount.toInt) = Action.ofTag tag (.text (Text.decimal amount.toInt))
  minimum : aspect ≠ .inventory → ∀ minimum : Int64,
    Goal.ofTag aspect.goalTag (.number minimum.toInt) =
      Goal.ofTag aspect.goalTag (.text (Text.decimal minimum.toInt))
  action : ∀ action : Action, action.aspect = aspect →
    (Action.ofEntry action.toEntry = .ok action ↔ action.Valid)
  goal : ∀ goal : Goal, goal.aspect = aspect →
    (Goal.ofEntry goal.toEntry = .ok goal ↔ goal.Valid)

/-- However an effect is spelled, it is read as the same effect or refused in the same way. -/
theorem spelledAlike (aspect : Aspect) : aspect.SpelledAlike where
  short token value spelled tag isTag :=
    (Action.ofShort_of_spells spelled).trans (Action.ofTag_of_mem_tags isTag _).symm
  spelled token action read same := same ▸ Action.exists_spells_of_ofShort read
  amount tag isTag amount := by
    rw [Action.ofTag_of_mem_tags isTag, Action.ofTag_of_mem_tags isTag]
    exact Action.ofPayload_word aspect amount
  minimum isCounter minimum := by
    cases aspect with
    | counter counter =>
      simp only [Goal.ofTag, Goal.ofGoalTag?_goalTag]
      exact Goal.ofPayload_word counter minimum
    | inventory => exact absurd rfl isCounter
  action action _ := Action.ofEntry_toEntry_iff
  goal goal _ := Goal.ofEntry_toEntry_iff

/-- An item may have a colon in its name, and a number may be out of range. -/
theorem spelledAlike_watch :
    inventory.Spells "\titem : 7:30 " " 7:30 " ∧
      Action.ofShort "\titem : 7:30 " = .ok (.take "7:30") ∧
      Action.ofTag "goldChange" (.number 3000000000) =
        Action.ofTag "goldChange" (.text "3000000000") ∧
      Goal.ofTag "minimumHealth" (.number (-1)) = Goal.ofTag "minimumHealth" (.text "-1") ∧
      Action.ofEntry (Action.take "7:30").toEntry = .ok (.take "7:30") ∧
      Goal.ofEntry (Goal.carry ["7:30"]).toEntry = .ok (.carry ["7:30"]) := by
  have spelled : inventory.Spells "\titem : 7:30 " " 7:30 " :=
    ⟨"\t", "item", " ", by decide, by decide, by decide, rfl⟩
  have valid : (Goal.carry ["7:30"]).Valid := ⟨by decide, List.pairwise_singleton _ _⟩
  refine ⟨spelled, ?_, ?_, ?_, ?_, ?_⟩
  · rw [(spelledAlike .inventory).short _ _ spelled "inventoryChange" (by decide)]
    rfl
  · exact (spelledAlike (.counter .gold)).amount "goldChange" (by decide) 3000000000
  · exact (spelledAlike (.counter .health)).minimum (by decide) (-1)
  · exact ((spelledAlike .inventory).action _ rfl).mpr (by decide)
  · exact ((spelledAlike .inventory).goal _ rfl).mpr valid

end Aspect
end Gamebook
