import Gamebook.Files.Path

namespace Gamebook
namespace Files

/-!
# Names in a directory

A name of a file may be nearly any bytes.  Most names are text, and they are kept as
text.  A name that is not text has no place in a path, because paths are text, so it is
met only where a directory is listed.
-/

/-- The text of which these are the bytes. -/
def decode? (bytes : List UInt8) : Option String := String.fromUTF8? bytes.toByteArray

/-- A name in a directory: a text, or bytes that are not text. -/
inductive Name
  | text (text : String)
  | bytes (bytes : List UInt8) (notText : decode? bytes = none)
  deriving DecidableEq, Repr

instance : Coe String Name := ⟨.text⟩

namespace Name

/-- Texts are ordered as texts and bytes as bytes, and texts come first. -/
inductive Below : Name → Name → Prop
  | texts {a b : String} (below : a < b) : Below (.text a) (.text b)
  | kinds {a : String} {b : List UInt8} {notB : decode? b = none} : Below (.text a) (.bytes b notB)
  | bytes {a b : List UInt8} {notA : decode? a = none} {notB : decode? b = none} (below : a < b) :
    Below (.bytes a notA) (.bytes b notB)

instance : LT Name := ⟨Below⟩

instance : DecidableLT Name
  | .text a, .text b => decidable_of_iff (a < b) ⟨.texts, fun | .texts below => below⟩
  | .text _, .bytes .. => .isTrue .kinds
  | .bytes .., .text _ => .isFalse nofun
  | .bytes a _, .bytes b _ => decidable_of_iff (a < b) ⟨.bytes, fun | .bytes below => below⟩

instance : Std.Asymm (α := Name) (· < ·) where
  asymm
    | _, _, .texts below, .texts above => Std.Asymm.asymm _ _ below above
    | _, _, .bytes below, .bytes above => Std.Asymm.asymm _ _ below above

/-- Names that are not ordered either way are the same. -/
instance : Std.Trichotomous (α := Name) (· < ·) where
  trichotomous a b notBelow notAbove := by
    cases a with
    | text a =>
      cases b with
      | text b =>
        have same : a = b :=
          Std.Trichotomous.trichotomous a b (fun below => notBelow (.texts below))
            (fun above => notAbove (.texts above))
        rw [same]
      | bytes b notB => exact absurd .kinds notBelow
    | bytes a notA =>
      cases b with
      | text b => exact absurd .kinds notAbove
      | bytes b notB =>
        have same : a = b :=
          Std.Trichotomous.trichotomous a b (fun below => notBelow (.bytes below))
            (fun above => notAbove (.bytes above))
        cases same
        rfl

/-- The text of a name that is text. -/
def text? : Name → Option String
  | .text name => some name
  | .bytes .. => none

/-- The name without its extension, if that is text. -/
def stem? : Name → Option String
  | .text name => some (String.ofList (cutExtension '.' name.toList).1)
  | .bytes name _ => decode? (cutExtension 46 name).1

/-- The extension, if there is one and it is text. -/
def extension? : Name → Option String
  | .text name => (cutExtension '.' name.toList).2.map String.ofList
  | .bytes name _ => (cutExtension 46 name).2.bind decode?

/-- The path of the name in a directory, if the name is text. -/
def pathIn? (directory : String) (name : Name) : Option String :=
  name.text?.map (join directory)

@[simp] theorem pathIn?_text (directory name : String) :
    pathIn? directory (.text name) = some (join directory name) := rfl

end Name

/-! ## Names that are cut -/

/-- Bytes of text on both sides of a dot make up text. -/
theorem decode?_append_dot {first second : List UInt8} (isFirst : (decode? first).isSome = true)
    (isSecond : (decode? second).isSome = true) :
    (decode? (first ++ 46 :: second)).isSome = true := by
  have valid_iff (bytes : List UInt8) :
      (decode? bytes).isSome = true ↔ bytes.toByteArray.IsValidUTF8 := by
    rw [decode?, String.fromUTF8?]
    split
    · next valid => exact iff_of_true rfl valid
    · next invalid => exact iff_of_false Bool.false_ne_true invalid
  have dot : (decode? [46]).isSome = true := by decide
  rw [valid_iff] at isFirst isSecond dot ⊢
  have whole : (first ++ 46 :: second).toByteArray =
      first.toByteArray ++ [46].toByteArray ++ second.toByteArray := by
    rw [← List.toByteArray_append, ← List.toByteArray_append, List.append_assoc,
      List.singleton_append]
  rw [whole]
  exact (isFirst.append dot).append isSecond

/-- A name has a text for a stem and a text for an extension when it is the text that they
make up with a dot between them. -/
theorem Name.cut_iff {name : Name} {stem extension : String} (noDot : '.' ∉ extension.toList) :
    name.stem? = some stem ∧ name.extension? = some extension ↔
      stem ≠ "" ∧ name = .text (stem ++ "." ++ extension) := by
  cases name with
  | text name =>
    rw [stem?, extension?, Option.some_inj, Option.map_eq_some_iff, Name.text.injEq]
    have parts : (stem ++ "." ++ extension).toList = stem.toList ++ '.' :: extension.toList := by
      simp
    constructor
    · rintro ⟨isStem, cs, isExtension, rfl⟩
      have cut : cutExtension '.' name.toList = (stem.toList, some cs) := by
        rw [← isStem, String.toList_ofList, ← isExtension]
      refine ⟨?_, ?_⟩
      · intro empty
        rw [empty] at cut
        exact ne_nil_of_cutExtension cut rfl
      · rw [← String.toList_inj, parts, String.toList_ofList]
        exact eq_of_cutExtension cut
    · rintro ⟨nonempty, rfl⟩
      have solid : stem.toList ≠ [] := mt String.toList_eq_nil_iff.mp nonempty
      rw [parts, cutExtension_append solid noDot]
      exact ⟨String.ofList_toList, _, rfl, String.ofList_toList⟩
  | bytes name notText =>
    refine iff_of_false ?_ (fun same => nomatch same.2)
    rintro ⟨isStem, isExtension⟩
    rcases Option.bind_eq_some_iff.mp isExtension with ⟨second, isSecond, decodes⟩
    -- The stem and the extension would make the whole name a text.
    have whole := eq_of_cutExtension (Prod.ext rfl isSecond)
    have isText := decode?_append_dot (Option.isSome_iff_exists.mpr ⟨_, isStem⟩)
      (Option.isSome_iff_exists.mpr ⟨_, decodes⟩)
    rw [← whole, notText] at isText
    cases isText

end Files
end Gamebook
