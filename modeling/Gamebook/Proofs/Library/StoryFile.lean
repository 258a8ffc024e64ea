import Gamebook.Library
import Gamebook.Proofs.Slug.Stem

namespace Gamebook

/-!
# The file of a story

A story's file is named by the slug of the title and the extension of its form.
Different slugs or forms give different names, and the name of a well-formed
story's file is short enough for every directory.
-/

theorem StoryFormat.noDot (format : StoryFormat) : '.' ∉ format.extension.toList := by
  cases format <;> decide

theorem StoryFormat.ofExtension?_eq_some_iff {extension : String} {format : StoryFormat} :
    ofExtension? extension = some format ↔ extension = format.extension := by
  constructor
  · intro found
    have same := List.find?_some found
    exact (of_decide_eq_true same).symm
  · rintro rfl
    cases format <;> decide

namespace Library

/-- The name of a story's file in the directory of the stories. -/
def fileName (title : String) (format : StoryFormat) : String :=
  slug title ++ "." ++ format.extension

theorem storyPath_eq (library : Library) (title : String) (format : StoryFormat) :
    library.storyPath title format = Files.join library.stories (fileName title format) :=
  rfl

theorem toList_fileName (title : String) (format : StoryFormat) :
    (fileName title format).toList =
      Slug.ofChars title.toList ++ '.' :: format.extension.toList := by
  simp [fileName, slug]

theorem cutExtension_fileName (title : String) (format : StoryFormat) :
    Files.cutExtension '.' (fileName title format).toList =
      (Slug.ofChars title.toList, some format.extension.toList) := by
  rw [toList_fileName]
  apply Files.cutExtension_append
  · exact Slug.ofChars_ne_nil title.toList
  · exact format.noDot

/-- Files have the same name when the slugs and the forms are the same. -/
theorem fileName_eq_iff {title other : String} {format form : StoryFormat} :
    fileName title format = fileName other form ↔ slug title = slug other ∧ format = form := by
  constructor
  · intro same
    have parts := cutExtension_fileName title format
    rw [same, cutExtension_fileName] at parts
    rcases Prod.mk.inj parts with ⟨sameSlug, sameExtension⟩
    refine ⟨congrArg String.ofList sameSlug.symm, ?_⟩
    cases format <;> cases form <;> first | rfl | cases sameExtension
  · rintro ⟨sameSlug, rfl⟩
    rw [fileName, fileName, sameSlug]

theorem isName_fileName (title : String) (format : StoryFormat) :
    Files.IsName (fileName title format) := by
  have apart {c : Char} (notSmall : Slug.isSmall c = false) (notJoint : Slug.isJoint c = false)
      (notDot : c ≠ '.') (notExtension : c ∉ format.extension.toList) :
      c ∉ (fileName title format).toList := by
    rw [toList_fileName, List.mem_append, List.mem_cons]
    rintro (inSlug | isDot | inExtension)
    · rcases (Slug.isStem_ofChars title.toList).alphabet c inSlug with small | joint
      · rw [notSmall] at small
        cases small
      · rw [Slug.isJoint_iff.mpr joint] at notJoint
        cases notJoint
    · exact notDot isDot
    · exact notExtension inExtension
  have long : 6 ≤ (fileName title format).toList.length := by
    have solid := List.length_pos_iff.mpr (Slug.ofChars_ne_nil title.toList)
    have extension : 4 ≤ format.extension.toList.length := by cases format <;> decide
    rw [toList_fileName, List.length_append, List.length_cons]
    omega
  refine ⟨apart (by decide) (by decide) (by decide) (by cases format <;> decide),
    apart (by decide) (by decide) (by decide) (by cases format <;> decide), ?_, ?_⟩
  · rw [Files.isIdle, Bool.or_eq_false_iff]
    constructor
    · refine Bool.eq_false_iff.mpr fun isEmpty => ?_
      rw [String.isEmpty_iff.mp isEmpty] at long
      exact absurd long (by decide)
    · refine decide_eq_false fun isDot => ?_
      rw [isDot] at long
      exact absurd long (by decide)
  · intro isStep
    rw [isStep] at long
    exact absurd long (by decide)

/-- The title of a story is short, and so is the name of its file. -/
theorem byteLength_fileName_le {story : Story} (wellFormed : story.WellFormed)
    (format : StoryFormat) :
    Text.byteLength (fileName story.title format).toList ≤ Files.Tree.longestName := by
  have bytes := Text.byteLength_le (fileName story.title format).toList
  have slugLength := Slug.length_ofChars_le story.title.toList
  have titleLength : story.title.toList.length ≤ 40 := by
    have admitted := (Rule.text_eq_ok_iff.mp wellFormed.title).2.2
    rw [Bounds.admits, Bool.and_eq_true] at admitted
    exact of_decide_eq_true admitted.2
  have extension : format.extension.toList.length ≤ 5 := by cases format <;> decide
  rw [toList_fileName, List.length_append, List.length_cons] at bytes
  rw [toList_fileName, Files.Tree.longestName]
  omega

/-! ## The path of the file -/

theorem stem?_storyPath (library : Library) (title : String) (format : StoryFormat) :
    Files.stem? (library.storyPath title format) = some (slug title) := by
  rw [Files.stem?, storyPath_eq, Files.lastName?_join (isName_fileName title format),
    Option.map_some, cutExtension_fileName]
  rfl

end Library

end Gamebook
