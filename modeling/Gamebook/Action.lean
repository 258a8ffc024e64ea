import Gamebook.Player
import Gamebook.Tag

namespace Gamebook

/-!
# Actions

An action is the effect of following a link: it changes a counter of the
player or adds an item.  Actions have a written form with a long tag, used in
documents, and a short form such as `H:-10`, used in scripts.
-/

/-- What an action or a goal is about. -/
inductive Aspect
  | counter (counter : Counter)
  | inventory
  deriving DecidableEq, Repr

namespace Aspect

def all : List Aspect := [.counter .health, .counter .gold, .counter .score, .inventory]

def actionTag : Aspect → String
  | .counter .health => "healthChange"
  | .counter .gold => "goldChange"
  | .counter .score => "scoreChange"
  | .inventory => "inventoryChange"

/-- Other tags that mean the same as the action's tag. -/
def actionAliases : Aspect → List String
  | .counter _ => []
  | .inventory => ["item"]

/-- The letter of the action's short form. -/
def letter : Aspect → String
  | .counter .health => "H"
  | .counter .gold => "G"
  | .counter .score => "S"
  | .inventory => "I"

def ofActionTag? (tag : String) : Option Aspect :=
  all.find? fun aspect => aspect.actionTag = tag || aspect.actionAliases.contains tag

/-- The aspect that the part before the colon of a short form names: its
letter, its tag or an alias. -/
def ofShort? (word : String) : Option Aspect :=
  (all.find? fun aspect => aspect.letter = word).or (ofActionTag? word)

/-- The tags under which an action about the aspect may be written. -/
def tags (aspect : Aspect) : List String :=
  aspect.actionTag :: aspect.actionAliases

/-- The words with which a short form about the aspect may open. -/
def words (aspect : Aspect) : List String :=
  aspect.letter :: aspect.tags

/-- No tag has two meanings. -/
theorem ofActionTag?_eq_some_iff {tag : String} {aspect : Aspect} :
    ofActionTag? tag = some aspect ↔ tag ∈ aspect.tags := by
  constructor
  · intro found
    have isTag := List.find?_some found
    simp only [Bool.or_eq_true, decide_eq_true_eq, List.contains_iff_mem] at isTag
    exact List.mem_cons.mpr (isTag.imp Eq.symm id)
  · have each : ∀ tag ∈ aspect.tags, ofActionTag? tag = some aspect := by
      rcases aspect with (_ | _ | _) | _ <;> decide
    exact each tag

/-- No word has two meanings, and no letter is a tag of something else. -/
theorem ofShort?_eq_some_iff {word : String} {aspect : Aspect} :
    ofShort? word = some aspect ↔ word ∈ aspect.words := by
  constructor
  · intro found
    rcases Option.or_eq_some_iff.mp found with isLetter | ⟨-, isTag⟩
    · have same := List.find?_some isLetter
      exact List.mem_cons.mpr (.inl (of_decide_eq_true same).symm)
    · exact List.mem_cons_of_mem _ (ofActionTag?_eq_some_iff.mp isTag)
  · have each : ∀ word ∈ aspect.words, ofShort? word = some aspect := by
      rcases aspect with (_ | _ | _) | _ <;> decide
    exact each word

/-- A word has no colon in it and no blanks around it. -/
theorem plain_of_mem_words {aspect : Aspect} {word : String} (isWord : word ∈ aspect.words) :
    ':' ∉ word.toList ∧ Text.trim word.toList = word.toList := by
  have each : ∀ word ∈ aspect.words,
      ':' ∉ word.toList ∧ Text.trim word.toList = word.toList := by
    rcases aspect with (_ | _ | _) | _ <;> decide
  exact each word isWord

end Aspect

/-- An effect on the player. -/
inductive Action
  | change (counter : Counter) (amount : Int)
  | take (item : String)
  deriving DecidableEq, Repr

namespace Action

def aspect : Action → Aspect
  | .change counter _ => .counter counter
  | .take _ => .inventory

/-- The payload of the written form. -/
def payloadText : Action → String
  | .change _ amount => Text.decimal amount
  | .take item => item

def short (action : Action) : String :=
  action.aspect.letter ++ ":" ++ action.payloadText

/-- Read the payload of an action about the given aspect.  An amount is a
signed 32-bit number. -/
def ofPayload (aspect : Aspect) (payload : Payload) : Except TagError Action :=
  match aspect with
  | .counter counter => do
    let amount ← payload.asInteger aspect.actionTag
    match Text.NumeralRange.int32.fit amount with
    | .ok amount => .ok (.change counter amount)
    | .error reason =>
      .error (.invalidPayload aspect.actionTag (Text.decimal amount) reason.message)
  | .inventory => do
    let item ← payload.asText aspect.actionTag
    match Rule.item item with
    | .ok () => .ok (.take item)
    | .error violation => .error (.invalid violation)

def ofTag (tag : String) (payload : Payload) : Except TagError Action :=
  match Aspect.ofActionTag? tag with
  | some aspect => ofPayload aspect payload
  | none => .error (.unknownTag "action" tag)

/-- Read a short form.  Blanks around the word before the colon and around the
value do not count. -/
def ofShort (token : String) : Except TagError Action :=
  match Text.cutAt? ':' token.toList with
  | none => .error (.unknownTag "action" token)
  | some (before, after) =>
    let word := String.ofList (Text.trim before)
    match Aspect.ofShort? word with
    | some aspect => ofPayload aspect (.text (String.ofList (Text.trim after)))
    | none => .error (.unknownTag "action" word)

/-- The written form. -/
def toEntry (action : Action) : TaggedEntry :=
  .single action.aspect.actionTag (.text action.payloadText)

/-- Read a written form. -/
def ofEntry (entry : TaggedEntry) : Except TagError Action := do
  let (tag, payload) ← entry.only "action"
  ofTag tag payload

/-- The player after the action, or the rule that forbids it. -/
def execute (action : Action) (player : Player) : Except Violation Player :=
  match action with
  | .change counter amount => player.adjust counter amount
  | .take item => player.take item

/-- Execute actions in order.  The first that is forbidden decides the result. -/
def executeAll : List Action → Player → Except Violation Player
  | [], player => .ok player
  | action :: rest, player => do executeAll rest (← action.execute player)

/-- What holds of every action that can be read: an amount fits 32 bits, and an
item's name follows its rule. -/
def Valid : Action → Prop
  | .change _ amount => Text.NumeralRange.int32.fit amount = .ok amount
  | .take item => Rule.item item = .ok ()

instance decidableValid (action : Action) : Decidable action.Valid :=
  match action with
  | .change _ _ =>
    decidable_of_iff _ (Iff.trans (and_iff_right rfl).symm Text.NumeralRange.fit_eq_ok_iff.symm)
  | .take item => inferInstanceAs (Decidable (Rule.item item = .ok ()))

/-! ## Execution -/

/-- An action that is not refused keeps the player valid. -/
theorem valid_of_execute {action : Action} {player after : Player} (valid : player.Valid)
    (executed : action.execute player = .ok after) : after.Valid ∧ after.name = player.name := by
  cases action with
  | change counter amount => exact Player.valid_of_adjust valid executed
  | take item => exact Player.valid_of_take valid executed

theorem valid_of_executeAll {actions : List Action} {player after : Player}
    (valid : player.Valid) (executed : executeAll actions player = .ok after) :
    after.Valid ∧ after.name = player.name := by
  induction actions generalizing player with
  | nil =>
    cases executed
    exact ⟨valid, rfl⟩
  | cons action actions ih =>
    rcases bind_eq_ok_iff.mp executed with ⟨between, first, rest⟩
    rcases valid_of_execute valid first with ⟨validBetween, sameName⟩
    rcases ih validBetween rest with ⟨validAfter, sameName'⟩
    exact ⟨validAfter, sameName'.trans sameName⟩

/-- Says that executing the actions in order fails: those before some action are
executed, and that action is refused. -/
def Fails (actions : List Action) (player : Player) (violation : Violation) : Prop :=
  ∃ (before : List Action) (action : Action) (after : List Action) (reached : Player),
    actions = before ++ action :: after ∧ executeAll before player = .ok reached ∧
      action.execute reached = .error violation

/-- A refusal comes from the first action that is refused. -/
theorem executeAll_eq_error_iff {actions : List Action} {player : Player}
    {violation : Violation} :
    executeAll actions player = .error violation ↔ Fails actions player violation := by
  induction actions generalizing player with
  | nil =>
    refine ⟨nofun, ?_⟩
    rintro ⟨before, action, after, reached, split, -⟩
    exact absurd split.symm (List.append_ne_nil_of_right_ne_nil before (List.cons_ne_nil _ _))
  | cons first actions ih =>
    rw [executeAll]
    constructor
    · intro failed
      cases executed : first.execute player with
      | error refused =>
        rw [executed, error_bind] at failed
        cases failed
        exact ⟨[], first, actions, player, rfl, rfl, executed⟩
      | ok between =>
        rw [executed, ok_bind, ih] at failed
        rcases failed with ⟨before, action, after, reached, rfl, done, refused⟩
        refine ⟨first :: before, action, after, reached, rfl, ?_, refused⟩
        rw [executeAll, executed, ok_bind]
        exact done
    · rintro ⟨before, action, after, reached, split, done, refused⟩
      cases before with
      | nil =>
        cases split
        cases done
        rw [refused, error_bind]
      | cons other before =>
        cases split
        rcases bind_eq_ok_iff.mp done with ⟨between, executed, rest⟩
        rw [executed, ok_bind, ih]
        exact ⟨before, action, after, reached, rfl, rest, refused⟩

/-! ## What is read -/

/-- An amount is read from a payload when it is a whole number there and fits 32 bits. -/
theorem ofPayload_counter_eq_ok_iff {counter : Counter} {payload : Payload} {action : Action} :
    ofPayload (.counter counter) payload = .ok action ↔
      ∃ amount, payload.asInteger (Aspect.counter counter).actionTag = .ok amount ∧
        (change counter amount).Valid ∧ change counter amount = action := by
  rw [ofPayload, bind_eq_ok_iff]
  apply exists_congr
  intro amount
  apply and_congr_right
  intro _
  constructor
  · intro read
    split at read
    · next fitted fits =>
      cases (Text.NumeralRange.fit_eq_ok_iff.mp fits).1
      cases read
      exact ⟨fits, rfl⟩
    · cases read
  · rintro ⟨valid, rfl⟩
    rw [show Text.NumeralRange.int32.fit amount = .ok amount from valid]

/-- An item is read from a payload when it is a single name there and follows its rule. -/
theorem ofPayload_inventory_eq_ok_iff {payload : Payload} {action : Action} :
    ofPayload .inventory payload = .ok action ↔
      ∃ item, payload.asText Aspect.inventory.actionTag = .ok item ∧
        (take item).Valid ∧ take item = action := by
  rw [ofPayload, bind_eq_ok_iff]
  apply exists_congr
  intro item
  apply and_congr_right
  intro _
  constructor
  · intro read
    split at read
    · next accepted =>
      cases read
      exact ⟨accepted, rfl⟩
    · cases read
  · rintro ⟨valid, rfl⟩
    rw [show Rule.item item = .ok () from valid]

/-- All tags of an aspect mean the same. -/
theorem ofTag_of_mem_tags {aspect : Aspect} {tag : String} (isTag : tag ∈ aspect.tags)
    (payload : Payload) : ofTag tag payload = ofPayload aspect payload := by
  simp only [ofTag, Aspect.ofActionTag?_eq_some_iff.mpr isTag]

theorem ofTag_eq_ok_iff {tag : String} {payload : Payload} {action : Action} :
    ofTag tag payload = .ok action ↔
      ∃ aspect : Aspect, tag ∈ aspect.tags ∧ ofPayload aspect payload = .ok action := by
  constructor
  · intro read
    unfold ofTag at read
    split at read
    · next aspect found => exact ⟨aspect, Aspect.ofActionTag?_eq_some_iff.mp found, read⟩
    · cases read
  · rintro ⟨aspect, isTag, read⟩
    exact (ofTag_of_mem_tags isTag payload).trans read

/-- A short form is read by the word before its first colon and the value behind it. -/
theorem ofShort_of_mem_words {aspect : Aspect} {token : String} {before after : List Char}
    (apart : ':' ∉ before) (parts : token.toList = before ++ ':' :: after)
    (isWord : String.ofList (Text.trim before) ∈ aspect.words) :
    ofShort token = ofPayload aspect (.text (String.ofList (Text.trim after))) := by
  rw [ofShort, parts, Text.cutAt?_append apart]
  simp only [Aspect.ofShort?_eq_some_iff.mpr isWord]

/-- A token is read as a short form when it has a colon with a word before it. -/
theorem ofShort_eq_ok_iff {token : String} {action : Action} :
    ofShort token = .ok action ↔
      ∃ (before after : List Char) (aspect : Aspect), ':' ∉ before ∧
        token.toList = before ++ ':' :: after ∧ String.ofList (Text.trim before) ∈ aspect.words ∧
          ofPayload aspect (.text (String.ofList (Text.trim after))) = .ok action := by
  constructor
  · intro read
    unfold ofShort at read
    split at read
    · cases read
    · next before after cut =>
      rcases Text.cutAt?_eq_some_iff.mp cut with ⟨apart, parts⟩
      dsimp only at read
      split at read
      · next aspect found =>
        exact ⟨before, after, aspect, apart, parts, Aspect.ofShort?_eq_some_iff.mp found, read⟩
      · cases read
  · rintro ⟨before, after, aspect, apart, parts, isWord, read⟩
    exact (ofShort_of_mem_words apart parts isWord).trans read

/-! ## What is read is valid -/

theorem valid_of_ofPayload {aspect : Aspect} {payload : Payload} {action : Action}
    (read : ofPayload aspect payload = .ok action) : action.Valid := by
  cases aspect with
  | counter counter =>
    rcases ofPayload_counter_eq_ok_iff.mp read with ⟨amount, -, valid, rfl⟩
    exact valid
  | inventory =>
    rcases ofPayload_inventory_eq_ok_iff.mp read with ⟨item, -, valid, rfl⟩
    exact valid

/-- What is read is about the aspect that was asked for. -/
theorem aspect_of_ofPayload {aspect : Aspect} {payload : Payload} {action : Action}
    (read : ofPayload aspect payload = .ok action) : action.aspect = aspect := by
  cases aspect with
  | counter counter =>
    rcases ofPayload_counter_eq_ok_iff.mp read with ⟨amount, -, -, rfl⟩
    rfl
  | inventory =>
    rcases ofPayload_inventory_eq_ok_iff.mp read with ⟨item, -, -, rfl⟩
    rfl

theorem valid_of_ofTag {tag : String} {payload : Payload} {action : Action}
    (read : ofTag tag payload = .ok action) : action.Valid := by
  rcases ofTag_eq_ok_iff.mp read with ⟨aspect, -, read⟩
  exact valid_of_ofPayload read

theorem valid_of_ofShort {token : String} {action : Action} (read : ofShort token = .ok action) :
    action.Valid := by
  rcases ofShort_eq_ok_iff.mp read with ⟨before, after, aspect, -, -, -, read⟩
  exact valid_of_ofPayload read

theorem valid_of_ofEntry {entry : TaggedEntry} {action : Action}
    (read : ofEntry entry = .ok action) : action.Valid := by
  rcases bind_eq_ok_iff.mp read with ⟨⟨tag, payload⟩, -, read⟩
  exact valid_of_ofTag read

/-! ## Reading what was written -/

/-- The payload of an action that can be read gives the action back. -/
theorem ofPayload_payloadText {action : Action} (valid : action.Valid) :
    ofPayload action.aspect (.text action.payloadText) = .ok action := by
  cases action with
  | change counter amount =>
    have bounds := (Text.NumeralRange.fit_eq_ok_iff.mp valid).2
    simp only [Text.NumeralRange.int32] at bounds
    refine ofPayload_counter_eq_ok_iff.mpr ⟨amount, ?_, valid, rfl⟩
    apply Payload.asInteger_decimal <;> simp only [Text.NumeralRange.int64] <;> omega
  | take item => exact ofPayload_inventory_eq_ok_iff.mpr ⟨item, rfl, valid, rfl⟩

/-- The payload of an action that can be read has no blanks around it. -/
theorem trim_payloadText {action : Action} (valid : action.Valid) :
    Text.trim action.payloadText.toList = action.payloadText.toList := by
  cases action with
  | change counter amount => rw [payloadText, Text.toList_decimal, Text.trim_numeral]
  | take item => exact (Rule.item_eq_ok_iff.mp valid).2.1

theorem toList_short (action : Action) :
    action.short.toList = action.aspect.letter.toList ++ ':' :: action.payloadText.toList := by
  simp [short]

/-- An action is read back from its short form. -/
theorem ofShort_short {action : Action} (valid : action.Valid) :
    ofShort action.short = .ok action := by
  have isWord : action.aspect.letter ∈ action.aspect.words := List.mem_cons_self
  have plain := Aspect.plain_of_mem_words isWord
  rw [ofShort_of_mem_words plain.1 action.toList_short, trim_payloadText valid,
    String.ofList_toList]
  · exact ofPayload_payloadText valid
  · rw [plain.2, String.ofList_toList]
    exact isWord

/-- An action is read back from its written form. -/
theorem ofEntry_toEntry {action : Action} (valid : action.Valid) :
    ofEntry action.toEntry = .ok action := by
  rw [ofEntry, toEntry, TaggedEntry.only_single, ok_bind]
  exact (ofTag_of_mem_tags List.mem_cons_self _).trans (ofPayload_payloadText valid)

end Action

end Gamebook
