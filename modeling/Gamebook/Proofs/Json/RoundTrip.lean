import Gamebook.Json.Decode
import Gamebook.Proofs.Json.Tokens

namespace Gamebook
namespace Json

/-!
# A written value is read back

The text of a value is cut into its tokens, whatever the layout, and the tokens
are read as the tree of the value.  Both steps are taken in the midst of a
longer text, so that they can be taken again for every item and every member.
-/

/-- Says that a value is at most so many containers deep, and that its whole
numbers keep their value in a document. -/
inductive Value.Fits : Nat → Value → Prop
  | bool {depth : Nat} (value : Bool) : Fits depth (.bool value)
  | integer {depth : Nat} {value : Int} (whole : Whole value) : Fits depth (.integer value)
  | string {depth : Nat} (value : String) : Fits depth (.string value)
  | array {depth : Nat} {items : List Value} (fit : ∀ item ∈ items, Fits depth item) :
    Fits (depth + 1) (.array items)
  | object {depth : Nat} {members : List (String × Value)}
    (fit : ∀ member ∈ members, Fits depth member.2) : Fits (depth + 1) (.object members)

mutual

/-- The tokens of a value. -/
def Value.tokens : Value → List Token
  | .bool value => [.bool value]
  | .integer value => [.number (.whole value)]
  | .string value => [.string value]
  | .array items => .openBracket :: itemTokens true items ++ [.closeBracket]
  | .object members => .openBrace :: memberTokens true members ++ [.closeBrace]

/-- The tokens of the items of a list. -/
def itemTokens (first : Bool) : List Value → List Token
  | [] => []
  | item :: items =>
    (if first then [] else [.comma]) ++ item.tokens ++ itemTokens false items

/-- The tokens of the members of an object. -/
def memberTokens (first : Bool) : List (String × Value) → List Token
  | [] => []
  | (key, value) :: members =>
    (if first then [] else [.comma]) ++ .string key :: .colon :: value.tokens ++
      memberTokens false members

end

mutual

/-- The tree of a value. -/
def Value.reading : Value → Reading
  | .bool value => .bool value
  | .integer value => .number (.whole value)
  | .string value => .string value
  | .array items => .array (itemReadings items) .closed
  | .object members => .object (memberReadings members) none

/-- The trees of the items of a list. -/
def itemReadings : List Value → List Reading
  | [] => []
  | item :: items => item.reading :: itemReadings items

/-- The trees of the members of an object. -/
def memberReadings : List (String × Value) → List (String × Reading)
  | [] => []
  | (key, value) :: members => (key, value.reading) :: memberReadings members

end

theorem itemReadings_eq_map (items : List Value) :
    itemReadings items = items.map Value.reading := by
  induction items with
  | nil => rfl
  | cons item items ih => rw [itemReadings, ih, List.map_cons]

theorem memberReadings_eq_map (members : List (String × Value)) :
    memberReadings members = members.map fun member => (member.1, member.2.reading) := by
  induction members with
  | nil => rfl
  | cons member members ih => rw [memberReadings, ih, List.map_cons]

/-! ## From the text to the tokens -/

theorem endsNumber_lineBreak (layout : Layout) (depth : Nat) {rest : List Char}
    (ends : EndsNumber rest) : EndsNumber (layout.lineBreak depth ++ rest) := by
  cases layout with
  | compact => exact ends
  | indented =>
    rintro c head
    cases head
    decide

theorem endsNumber_writeItems (layout : Layout) (depth : Nat) (items : List Value)
    {rest : List Char} (ends : EndsNumber rest) :
    EndsNumber (writeItems layout depth false items ++ rest) := by
  cases items with
  | nil => exact ends
  | cons item items =>
    rintro c head
    cases head
    decide

theorem endsNumber_writeMembers (layout : Layout) (depth : Nat) (members : List (String × Value))
    {rest : List Char} (ends : EndsNumber rest) :
    EndsNumber (writeMembers layout depth false members ++ rest) := by
  cases members with
  | nil => exact ends
  | cons member members =>
    rintro c head
    cases head
    decide

/-- Says that the text of a value is cut into its tokens at every depth. -/
def Value.Lexed (layout : Layout) (value : Value) : Prop :=
  ∀ (depth : Nat) (rest : List Char), EndsNumber rest →
    Json.tokens (value.write layout depth ++ rest) = value.tokens ++ Json.tokens rest

theorem tokens_writeItems {layout : Layout} {items : List Value}
    (lexed : ∀ item ∈ items, item.Lexed layout) (depth : Nat) (first : Bool) {rest : List Char}
    (ends : EndsNumber rest) :
    tokens (writeItems layout depth first items ++ rest) =
      itemTokens first items ++ tokens rest := by
  induction items generalizing first with
  | nil => rfl
  | cons item items ih =>
    have more := ih (fun other member => lexed other (List.mem_cons_of_mem item member)) false
    have behind := endsNumber_writeItems layout depth items ends
    simp only [writeItems, itemTokens, List.append_assoc]
    rw [tokens_comma, tokens_lineBreak, lexed item List.mem_cons_self depth _ behind, more]

theorem tokens_writeMembers {layout : Layout} {members : List (String × Value)}
    (lexed : ∀ member ∈ members, member.2.Lexed layout) (depth : Nat) (first : Bool)
    {rest : List Char} (ends : EndsNumber rest) :
    tokens (writeMembers layout depth first members ++ rest) =
      memberTokens first members ++ tokens rest := by
  induction members generalizing first with
  | nil => rfl
  | cons member members ih =>
    rcases member with ⟨key, value⟩
    have more := ih (fun other listed => lexed other (List.mem_cons_of_mem _ listed)) false
    have behind := endsNumber_writeMembers layout depth members ends
    simp only [writeMembers, memberTokens, List.append_assoc, List.cons_append]
    rw [tokens_comma, tokens_lineBreak, tokens_writtenString, tokens_colon,
      lexed (key, value) List.mem_cons_self depth _ behind, more, String.ofList_toList]

/-- The text of a value is cut into its tokens. -/
theorem tokens_write {room : Nat} {value : Value} (fits : value.Fits room) (layout : Layout) :
    value.Lexed layout := by
  have closing (close : Char) (rest : List Char)
      (closes : close.isDigit = false ∧ close ≠ '.' ∧ close ≠ 'e' ∧ close ≠ 'E') :
      EndsNumber (close :: rest) := by
    rintro c head
    cases head
    exact closes
  induction fits with
  | bool value =>
    intro depth rest ends
    cases value <;> exact tokens_of_readToken _ rfl rfl
  | integer whole =>
    intro depth rest ends
    exact tokens_numeral whole ends
  | string value =>
    intro depth rest ends
    rw [Value.write, tokens_writtenString, String.ofList_toList]
    rfl
  | @array room items fit ih =>
    intro depth rest ends
    have after : tokens (']' :: rest) = .closeBracket :: tokens rest :=
      tokens_of_readToken _ rfl rfl
    cases items with
    | nil =>
      rw [Value.write, List.cons_append, tokens_of_readToken .openBracket rfl rfl]
      exact congrArg _ after
    | cons item items =>
      have ends' := endsNumber_lineBreak layout depth (closing ']' rest (by decide))
      simp only [Value.write, Value.tokens, List.cons_append, List.append_assoc, List.nil_append]
      rw [tokens_of_readToken .openBracket rfl rfl,
        tokens_writeItems ih (depth + 1) true ends', tokens_lineBreak, after]
  | @object room members fit ih =>
    intro depth rest ends
    have after : tokens ('\x7d' :: rest) = .closeBrace :: tokens rest :=
      tokens_of_readToken _ rfl rfl
    cases members with
    | nil =>
      rw [Value.write, List.cons_append, tokens_of_readToken .openBrace rfl rfl]
      exact congrArg _ after
    | cons member members =>
      have ends' := endsNumber_lineBreak layout depth (closing '\x7d' rest (by decide))
      simp only [Value.write, Value.tokens, List.cons_append, List.append_assoc, List.nil_append]
      rw [tokens_of_readToken .openBrace rfl rfl,
        tokens_writeMembers ih (depth + 1) true ends', tokens_lineBreak, after]

/-! ## From the tokens to the tree -/

/-- Says that a place waits for a value, which goes to the given frames. -/
def Place.Awaits (place : Place) (opened frames : List Frame) : Prop :=
  ∀ token, token ≠ .closeBracket → step place opened token = stepValue frames token

/-- Says that the tokens of a value are read as its tree, wherever it stands. -/
def Value.Parsed (room : Nat) (value : Value) : Prop :=
  ∀ (place : Place) (opened frames : List Frame) (rest : List Token),
    place.Awaits opened frames → frames.length + room ≤ greatestDepth →
      run place opened (value.tokens ++ rest) =
        run (deliver value.reading frames).1 (deliver value.reading frames).2 rest

theorem run_go {place : Place} (next : Place) {frames frames' : List Frame} {token : Token}
    (go : step place frames token = .go next frames') (rest : List Token) :
    run place frames (token :: rest) = run next frames' rest := by
  rw [run, go]

/-- The items behind the first one are read up to the end of their list. -/
theorem run_itemTokens {room : Nat} {items : List Value}
    (parsed : ∀ item ∈ items, item.Parsed room) {frames : List Frame}
    (fits : frames.length + (room + 1) ≤ greatestDepth) (done : List Reading)
    (rest : List Token) :
    run (.afterItem done) frames (itemTokens false items ++ .closeBracket :: rest) =
      run (deliver (.array (done.reverse ++ itemReadings items) .closed) frames).1
        (deliver (.array (done.reverse ++ itemReadings items) .closed) frames).2 rest := by
  induction items generalizing done with
  | nil =>
    rw [itemTokens, itemReadings, List.append_nil, List.nil_append]
    exact run_go _ rfl rest
  | cons item items ih =>
    have awaits : Place.Awaits (.nextItem done) frames (.list done :: frames) := by
      intro token other
      rw [step]
      exact other
    have fits' : (Frame.list done :: frames).length + room ≤ greatestDepth := by
      rw [List.length_cons]
      omega
    have more := ih (fun other member => parsed other (List.mem_cons_of_mem item member))
      (item.reading :: done)
    rw [List.reverse_cons, List.append_assoc, List.singleton_append] at more
    rw [itemTokens, List.append_assoc, List.append_assoc, itemReadings]
    exact (run_go (.nextItem done) rfl _).trans
      ((parsed item List.mem_cons_self _ _ _ _ awaits fits').trans more)

/-- A member is read behind its key. -/
theorem run_member {room : Nat} {value : Value} (parsed : value.Parsed room) {frames : List Frame}
    (fits : frames.length + (room + 1) ≤ greatestDepth) (done : List (String × Reading))
    (key : String) (rest : List Token) :
    run (.colon done key) frames (.colon :: value.tokens ++ rest) =
      run (.afterMember ((key, value.reading) :: done)) frames rest := by
  have fits' : (Frame.object done key :: frames).length + room ≤ greatestDepth := by
    rw [List.length_cons]
    omega
  have awaits : Place.Awaits .value (.object done key :: frames) (.object done key :: frames) :=
    fun token other => rfl
  exact (run_go .value rfl _).trans (parsed _ _ _ _ awaits fits')

/-- The members behind the first one are read up to the end of their object. -/
theorem run_memberTokens {room : Nat} {members : List (String × Value)}
    (parsed : ∀ member ∈ members, member.2.Parsed room) {frames : List Frame}
    (fits : frames.length + (room + 1) ≤ greatestDepth) (done : List (String × Reading))
    (rest : List Token) :
    run (.afterMember done) frames (memberTokens false members ++ .closeBrace :: rest) =
      run (deliver (.object (done.reverse ++ memberReadings members) none) frames).1
        (deliver (.object (done.reverse ++ memberReadings members) none) frames).2 rest := by
  induction members generalizing done with
  | nil =>
    rw [memberTokens, memberReadings, List.append_nil, List.nil_append]
    exact run_go _ rfl rest
  | cons member members ih =>
    rcases member with ⟨key, value⟩
    have more := ih (fun other listed => parsed other (List.mem_cons_of_mem _ listed))
      ((key, value.reading) :: done)
    rw [List.reverse_cons, List.append_assoc, List.singleton_append] at more
    have next := run_member (parsed (key, value) List.mem_cons_self) fits done key
      (memberTokens false members ++ .closeBrace :: rest)
    rw [memberTokens, List.append_assoc, memberReadings]
    exact (run_go (.nextKey done) rfl _).trans
      ((run_go (.colon done key) rfl _).trans (next.trans more))

/-- The tokens of a value are read as its tree. -/
theorem run_tokens {room : Nat} {value : Value} (fits : value.Fits room) : value.Parsed room := by
  induction fits with
  | bool value =>
    intro place opened frames rest awaits _
    exact run_go _ (awaits _ (by simp)) rest
  | integer whole =>
    intro place opened frames rest awaits _
    exact run_go _ (awaits _ (by simp)) rest
  | string value =>
    intro place opened frames rest awaits _
    exact run_go _ (awaits _ (by simp)) rest
  | @array room items fit ih =>
    intro place opened frames rest awaits fits
    have opens : step place opened .openBracket = .go .firstItem frames := by
      rw [awaits _ (by decide)]
      exact if_pos (by omega)
    rw [Value.tokens, List.cons_append, List.cons_append, List.append_assoc, run_go _ opens]
    cases items with
    | nil => exact run_go _ rfl rest
    | cons item items =>
      have awaits' : Place.Awaits .firstItem frames (.list [] :: frames) := by
        intro token other
        rw [step]
        exact other
      have fits' : (Frame.list [] :: frames).length + room ≤ greatestDepth := by
        rw [List.length_cons]
        omega
      rw [itemTokens, List.append_assoc, List.append_assoc]
      exact (ih item List.mem_cons_self _ _ _ _ awaits' fits').trans
        (run_itemTokens (fun other member => ih other (List.mem_cons_of_mem item member)) fits
          [item.reading] rest)
  | @object room members fit ih =>
    intro place opened frames rest awaits fits
    have opens : step place opened .openBrace = .go .firstKey frames := by
      rw [awaits _ (by decide)]
      exact if_pos (by omega)
    rw [Value.tokens, List.cons_append, List.cons_append, List.append_assoc, run_go _ opens]
    cases members with
    | nil => exact run_go _ rfl rest
    | cons member members =>
      rcases member with ⟨key, value⟩
      have more := run_memberTokens (fun other listed => ih other (List.mem_cons_of_mem _ listed))
        fits [(key, value.reading)] rest
      rw [memberTokens, List.append_assoc]
      exact (run_go (.colon [] key) rfl _).trans
        ((run_member (ih (key, value) List.mem_cons_self) fits [] key _).trans more)

/-! ## The whole text -/

/-- A value's text holds its tree and nothing more. -/
theorem ofText_text {value : Value} (fits : value.Fits greatestDepth) (layout : Layout) :
    Document.ofText (value.text layout) = ⟨value.reading, false⟩ := by
  have lexed := tokens_write fits layout 0 [] (fun c head => by cases head)
  have parsed := run_tokens fits .value [] [] [] (fun token other => rfl) (by decide)
  rw [List.append_nil] at lexed
  rw [Document.ofText, Value.text, String.toList_ofList, lexed, tokens, parsed]
  rfl

/-- Decoding the text of a value is decoding its tree. -/
theorem decode_text {ρ α : Type} (decoder : Decoder ρ α) {value : Value}
    (fits : value.Fits greatestDepth) (layout : Layout) :
    decode decoder (value.text layout) = decoder value.reading := by
  rw [decode, ofText_text fits layout]
  cases decoder value.reading <;> rfl

end Json
end Gamebook
