import Gamebook.Text.Lines

namespace Gamebook
namespace Files

/-!
# Paths as text

A path is a text whose segments are separated by slashes.  It is shown as it
was put together, so joining and taking parents work on the text.
-/

/-- The segments of a path.  A path from the root has an empty first segment. -/
def segments (path : String) : List String :=
  (Text.pieces '/' path.toList).map String.ofList

def ofSegments (names : List String) : String :=
  String.ofList (Text.join ['/'] (names.map String.toList))

/-- Says whether the path starts at the root. -/
def isAbsolute (path : String) : Bool := path.toList.head?.any (· = '/')

/-- Says whether a segment may follow the path without a slash between them. -/
def isOpen (path : String) : Bool := path.toList.getLast?.all (· = '/')

/-- A path within another.  A path from the root stands for itself. -/
def join (base part : String) : String :=
  if isAbsolute part then part
  else if isOpen base then base ++ part
  else base ++ "/" ++ part

/-- A segment that stays where it is. -/
def isIdle (segment : String) : Bool := segment.isEmpty || segment = "."

/-- The segments up to the last that names something. -/
def dropIdle (names : List String) : List String :=
  (names.reverse.dropWhile isIdle).reverse

/-- The last segment that names something. -/
def lastName? (path : String) : Option String :=
  match (dropIdle (segments path)).getLast? with
  | some ".." => none
  | name => name

/-- The path of the directory that holds what the path names. -/
def parent? (path : String) : Option String :=
  match dropIdle (segments path) with
  | [] => none
  | names =>
    let above := ofSegments (dropIdle names.dropLast)
    some (if above.isEmpty && isAbsolute path then "/" else above)

/-- The path, the path of its parent, and so on. -/
def ancestors (path : String) : List String :=
  up path.length path
where
  /-- Go up as long as there is a parent; each is shorter than the path before it. -/
  up : Nat → String → List String
    | 0, path => [path]
    | steps + 1, path =>
      match parent? path with
      | none => [path]
      | some above => path :: up steps above

/-- Cut a name at its last dot, be it a text or bytes.  A dot at the start does not
count. -/
def cutExtension {α : Type} [DecidableEq α] (dot : α) (name : List α) :
    List α × Option (List α) :=
  let after := (name.reverse.takeWhile fun c => c ≠ dot).reverse
  match (name.reverse.dropWhile fun c => c ≠ dot).reverse.dropLast with
  | [] => (name, none)
  | before => (before, some after)

/-- The last name of the path without its extension. -/
def stem? (path : String) : Option String :=
  (lastName? path).map fun name => String.ofList (cutExtension '.' name.toList).1

def extension? (path : String) : Option String :=
  (lastName? path).bind fun name => (cutExtension '.' name.toList).2.map String.ofList

/-! ## Segments -/

theorem dropIdle_of_idle {names : List String} {name : String} (idle : isIdle name = true) :
    dropIdle (names ++ [name]) = dropIdle names := by
  rw [dropIdle, List.reverse_concat, List.dropWhile_cons_of_pos idle]
  rfl

theorem dropIdle_of_solid {names : List String} {name : String} (solid : isIdle name = false) :
    dropIdle (names ++ [name]) = names ++ [name] := by
  rw [dropIdle, List.reverse_concat, List.dropWhile_cons_of_neg (by rw [solid]; decide),
    List.reverse_cons, List.reverse_reverse]

/-- What is dropped from the segments stays where it is. -/
theorem exists_idle_dropIdle (names : List String) :
    ∃ idle, names = dropIdle names ++ idle ∧ ∀ name ∈ idle, isIdle name = true := by
  refine ⟨(names.reverse.takeWhile isIdle).reverse, ?_, ?_⟩
  · rw [dropIdle, ← List.reverse_append, List.takeWhile_append_dropWhile, List.reverse_reverse]
  · intro name member
    exact List.all_eq_true.mp List.all_takeWhile name (List.mem_reverse.mp member)

/-- A path that names some first segments of another is the start of its text. -/
theorem ofSegments_isPrefix {path : String} {first second : List String}
    (split : segments path = first ++ second) : (ofSegments first).toList <+: path.toList := by
  have whole : (first ++ second).map String.toList = Text.pieces '/' path.toList := by
    rw [← split, segments, List.map_map]
    exact List.map_id'' (fun _ => String.toList_ofList) _
  rw [ofSegments, String.toList_ofList, ← Text.join_pieces '/' path.toList, ← whole,
    List.map_append]
  exact Text.join_isPrefix ['/'] _ _

theorem segments_ofSegments {path : String} {first second : List String}
    (split : segments path = first ++ second) (nonempty : first ≠ []) :
    segments (ofSegments first) = first := by
  have apart : ∀ piece ∈ first.map String.toList, '/' ∉ piece := by
    intro piece member
    rcases List.mem_map.mp member with ⟨name, listed, rfl⟩
    have isSegment : name ∈ segments path := split ▸ List.mem_append_left second listed
    rcases List.mem_map.mp isSegment with ⟨cs, isPiece, rfl⟩
    rw [String.toList_ofList]
    exact Text.not_mem_of_mem_pieces isPiece
  rw [segments, ofSegments, String.toList_ofList,
    Text.pieces_join (fun empty => nonempty (List.map_eq_nil_iff.mp empty)) apart, List.map_map]
  exact List.map_id'' (fun _ => String.ofList_toList) first

/-! ## Names in a directory -/

/-- A text that names something in a directory. -/
structure IsName (name : String) : Prop where
  noSlash : '/' ∉ name.toList
  noNul : '\x00' ∉ name.toList
  solid : isIdle name = false
  noStep : name ≠ ".."

theorem IsName.not_isAbsolute {name : String} (isName : IsName name) : isAbsolute name = false := by
  rw [isAbsolute, ← Bool.not_eq_true, Option.any_eq_true]
  rintro ⟨c, head, isSlash⟩
  rw [of_decide_eq_true isSlash] at head
  exact isName.noSlash (List.mem_of_mem_head? head)

/-- The path of a name in a directory is the directory's path and the name, with at
most a slash between them. -/
theorem exists_toList_join {name : String} (isName : IsName name) (base : String) :
    ∃ between, (join base name).toList = base.toList ++ between ++ name.toList ∧
      (isOpen base = true ∧ between = [] ∨ isOpen base = false ∧ between = ['/']) := by
  rw [join, isName.not_isAbsolute, if_neg Bool.false_ne_true]
  cases opens : isOpen base with
  | true => exact ⟨[], by simp, .inl ⟨rfl, rfl⟩⟩
  | false => exact ⟨['/'], by simp, .inr ⟨rfl, rfl⟩⟩

/-- The segments of a name in a directory are those of the directory and the name,
when the slash at the end of the directory's path is not counted. -/
theorem exists_segments_join {name : String} (isName : IsName name) (base : String) :
    ∃ names, segments (join base name) = names ++ [name] ∧
      (segments base = names ∨ segments base = names ++ [""]) := by
  have last : (Text.pieces '/' name.toList).map String.ofList = [name] := by
    rw [Text.pieces_of_not_mem isName.noSlash, List.map_singleton, String.ofList_toList]
  rcases exists_toList_join isName base with ⟨between, text, ⟨opens, rfl⟩ | ⟨-, rfl⟩⟩
  · rcases List.eq_nil_or_concat base.toList with empty | ⟨front, c, split⟩
    · refine ⟨[], ?_, .inr ?_⟩
      · rw [segments, text, empty]
        exact last
      · rw [segments, empty]
        rfl
    · have isSlash : c = '/' := by
        rw [isOpen, split, List.concat_eq_append, List.getLast?_concat] at opens
        exact of_decide_eq_true opens
      rw [split, List.concat_eq_append, List.append_nil, List.append_assoc, isSlash,
        List.singleton_append] at text
      refine ⟨(Text.pieces '/' front).map String.ofList, ?_, .inr ?_⟩
      · rw [segments, text, Text.pieces_separator, List.map_append, last]
      · rw [segments, split, List.concat_eq_append, isSlash, Text.pieces_separator, List.map_append]
        rfl
  · refine ⟨segments base, ?_, .inl rfl⟩
    rw [List.append_assoc, List.singleton_append] at text
    rw [segments, text, Text.pieces_separator, List.map_append, last, segments]

theorem isAbsolute_join {name : String} (isName : IsName name) (base : String) :
    isAbsolute (join base name) = isAbsolute base := by
  rcases exists_toList_join isName base with ⟨between, text, closed⟩
  rw [isAbsolute, isAbsolute, text]
  cases start : base.toList with
  | cons c cs => rfl
  | nil =>
    have noSlash := isName.not_isAbsolute
    rw [isAbsolute] at noSlash
    rcases closed with ⟨-, rfl⟩ | ⟨closed, -⟩
    · exact noSlash
    · rw [isOpen, start] at closed
      cases closed

/-- A name in a directory is the last name of its path. -/
theorem lastName?_join {name : String} (isName : IsName name) (base : String) :
    lastName? (join base name) = some name := by
  rcases exists_segments_join isName base with ⟨names, split, -⟩
  rw [lastName?, split, dropIdle_of_solid isName.solid, List.getLast?_concat]
  split
  · next same => exact absurd (Option.some.inj same) isName.noStep
  · rfl

/-- Different names in a directory have different paths. -/
theorem eq_of_join_eq {name other base : String} (isName : IsName name) (isOther : IsName other)
    (same : join base name = join base other) : name = other := by
  have last := lastName?_join isName base
  rw [same, lastName?_join isOther] at last
  exact (Option.some.inj last).symm

/-- The path of a directory without the segments at its end that stay in place. -/
def trimmed (path : String) : String :=
  let names := ofSegments (dropIdle (segments path))
  if names.isEmpty && isAbsolute path then "/" else names

theorem parent?_join {name : String} (isName : IsName name) (base : String) :
    parent? (join base name) = some (trimmed base) := by
  rcases exists_segments_join isName base with ⟨names, split, ofBase⟩
  have sameNames : dropIdle names = dropIdle (segments base) := by
    rcases ofBase with same | same
    · rw [same]
    · rw [same, dropIdle_of_idle rfl]
  rw [parent?, split, dropIdle_of_solid isName.solid, isAbsolute_join isName, trimmed, ← sameNames]
  split
  · next empty => exact absurd empty (List.append_ne_nil_of_right_ne_nil _ (List.cons_ne_nil _ _))
  · rw [List.dropLast_concat]

/-! ## Extensions -/

section

variable {α : Type} [DecidableEq α] {dot : α} {name stem extension : List α}

theorem cutExtension_append (nonempty : stem ≠ []) (noDot : dot ∉ extension) :
    cutExtension dot (stem ++ dot :: extension) = (stem, some extension) := by
  have solid : ∀ c ∈ extension.reverse, decide (c ≠ dot) = true := by
    intro c member
    refine decide_eq_true fun isDot => noDot ?_
    rw [← isDot]
    exact List.mem_reverse.mp member
  have reversed :
      (stem ++ dot :: extension).reverse = extension.reverse ++ dot :: stem.reverse := by
    rw [List.reverse_append, List.reverse_cons, List.append_assoc, List.singleton_append]
  rw [cutExtension, reversed, List.takeWhile_append_of_pos solid,
    List.dropWhile_append_of_pos solid,
    List.takeWhile_cons_of_neg (by simp), List.dropWhile_cons_of_neg (by simp), List.append_nil,
    List.reverse_reverse, List.reverse_cons, List.reverse_reverse, List.dropLast_concat]
  cases stem with
  | nil => exact absurd rfl nonempty
  | cons c stem => rfl

/-- What was cut off makes up the name again. -/
theorem eq_of_cutExtension (cut : cutExtension dot name = (stem, some extension)) :
    name = stem ++ dot :: extension := by
  have parts := List.takeWhile_append_dropWhile (p := fun c => decide (c ≠ dot)) (l := name.reverse)
  rw [cutExtension] at cut
  cases dropped : name.reverse.dropWhile fun c => decide (c ≠ dot) with
  | nil =>
    rw [dropped] at cut
    cases cut
  | cons c rest =>
    have isDot : c = dot := by
      have stops := List.head?_dropWhile_not (fun c => decide (c ≠ dot)) name.reverse
      rw [dropped] at stops
      simpa using stops
    rw [dropped, List.reverse_cons, List.dropLast_concat] at cut
    rw [dropped, isDot] at parts
    split at cut
    · cases cut
    · cases cut
      rw [← List.reverse_inj, List.reverse_append, List.reverse_cons, List.reverse_reverse,
        List.reverse_reverse, List.append_assoc, List.singleton_append]
      exact parts.symm

/-- There is something before the extension. -/
theorem ne_nil_of_cutExtension (cut : cutExtension dot name = (stem, some extension)) :
    stem ≠ [] := by
  rw [cutExtension] at cut
  split at cut
  · cases cut
  · next nonempty =>
    cases cut
    exact nonempty

end

end Files
end Gamebook
