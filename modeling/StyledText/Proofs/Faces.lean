import StyledText.Resources

/-!
# What fonts answer

A typeface keeps the faces that it has been asked for, so asking changes it. This module says what
it answers without reference to what it keeps, and what asking leaves as it was.

Results:
1. `Typeface.faceAt_fst`: the face at a size is the answer that the font alone gives.
2. `Typeface.pristine_faceAt`: but for the faces that it keeps, asking does not change a typeface.
3. `Resources.face?_of_faceAt`: the same two for a font that is found by its name.
-/

namespace StyledText

variable {F : Type} [FontFace F]

/-! ## Typefaces -/

namespace Typeface

/-- The face at a size, by the font alone. -/
def answer (typeface : Typeface F) (size : Nat) : Except ResourceError F :=
  if typeface.InRange size then (FontFace.variant typeface.base size).mapError .font
  else .error (.pointSizeOutOfRange size typeface.maxPointSize)

/-- The typeface as it is before the first question. -/
def pristine (typeface : Typeface F) : Typeface F :=
  .ofBase typeface.name typeface.base typeface.maxPointSize

theorem pristine_ofBase (name : String) (base : F) (maxPointSize : Nat) :
    (ofBase name base maxPointSize).pristine = ofBase name base maxPointSize := rfl

/-- A size at which no face is kept is not that of the font itself. -/
theorem variant_of_absent {typeface : Typeface F} {size : Nat}
    (absent : typeface.faces[size]? = none) :
    FontFace.variant typeface.base size = FontFace.copyAt typeface.base size := by
  have foreign : size ≠ FontFace.pointSize typeface.base := by
    rintro rfl
    rw [typeface.base_mem] at absent
    cases absent
  exact if_neg foreign

/-- The answer does not depend on the faces that are kept. -/
theorem faceAt_fst (typeface : Typeface F) (size : Nat) :
    (typeface.faceAt size).1 = typeface.answer size := by
  unfold faceAt answer
  by_cases inRange : typeface.InRange size
  · rw [if_pos inRange, if_pos inRange]
    split
    · next face kept =>
      -- The faces that a typeface keeps are those of its font.
      rw [typeface.faces_variant size face kept]
      rfl
    · next absent =>
      rw [variant_of_absent absent]
      split
      · next face copy =>
        simp only [copy]
        rfl
      · next cause copy =>
        simp only [copy]
        rfl
  · rw [if_neg inRange, if_neg inRange]

theorem pristine_faceAt (typeface : Typeface F) (size : Nat) :
    (typeface.faceAt size).2.pristine = typeface.pristine := by
  unfold faceAt
  split
  · split
    · rfl
    · split <;> rfl
  · rfl

end Typeface

/-! ## Fonts by their names -/

namespace Resources

/-- The face of a registered font at a size, by the font alone. -/
def face? (resources : Resources F) (name : String) (size : Nat) :
    Option (Except ResourceError F) :=
  (resources.font? name).map (·.answer size)

/-- The resources as they are when no font has been asked for a face. -/
def pristine (resources : Resources F) : Resources F :=
  { resources with fonts := resources.fonts.map fun _ typeface => typeface.pristine }

theorem font?_pristine (resources : Resources F) (name : String) :
    resources.pristine.font? name = (resources.font? name).map Typeface.pristine :=
  Std.ExtTreeMap.getElem?_map

theorem get?_pristine (resources : Resources F) (key : String) :
    resources.pristine.get? key = resources.get? key := rfl

theorem face?_pristine (resources : Resources F) (name : String) (size : Nat) :
    resources.pristine.face? name size = resources.face? name size := by
  unfold face?
  rw [font?_pristine, Option.map_map]
  rfl

theorem face?_of_faceAt_none {resources : Resources F} {name : String} {size : Nat}
    (h : resources.faceAt name size = none) : resources.face? name size = none := by
  unfold faceAt at h
  rw [Option.map_eq_none_iff] at h
  rw [face?, h]
  rfl

theorem fonts_insert_pristine (resources : Resources F) (name : String) (new : Typeface F) :
    (resources.fonts.insert name new).map (fun _ typeface => typeface.pristine) =
      resources.pristine.fonts.insert name new.pristine := by
  refine Std.ExtTreeMap.ext_getElem? fun other => ?_
  rw [pristine, Std.ExtTreeMap.getElem?_map, Std.ExtTreeMap.getElem?_insert,
    Std.ExtTreeMap.getElem?_insert, Std.ExtTreeMap.getElem?_map]
  split <;> rfl

/-- Putting another typeface under a name shows only in the faces that it keeps, if it is of the
same font. -/
theorem pristine_insert {resources : Resources F} {name : String} {old new : Typeface F}
    (found : resources.font? name = some old) (same : new.pristine = old.pristine) :
    { resources with fonts := resources.fonts.insert name new : Resources F }.pristine =
      resources.pristine := by
  have kept : resources.pristine.fonts[name]? = some old.pristine := by
    rw [← font?, font?_pristine, found, Option.map_some]
  have fonts : resources.pristine.fonts.insert name old.pristine = resources.pristine.fonts := by
    refine Std.ExtTreeMap.ext_getElem? fun other => ?_
    rw [Std.ExtTreeMap.getElem?_insert]
    split
    · next equal =>
      rw [Std.compare_eq_iff_eq] at equal
      rw [← equal, kept]
    · rfl
  rw [pristine, fonts_insert_pristine, same, fonts]
  rfl

/-- A font that is found by its name gives the answer of the font alone, and asking it changes
the resources only in the faces that are kept. -/
theorem face?_of_faceAt {resources after : Resources F} {name : String} {size : Nat}
    {answer : Except ResourceError F} (h : resources.faceAt name size = some (answer, after)) :
    resources.face? name size = some answer ∧ after.pristine = resources.pristine := by
  unfold faceAt at h
  obtain ⟨typeface, found, asked⟩ := Option.map_eq_some_iff.1 h
  simp only [Prod.mk.injEq] at asked
  obtain ⟨rfl, rfl⟩ := asked
  constructor
  · rw [face?, found, Option.map_some, Typeface.faceAt_fst]
  · exact pristine_insert found (typeface.pristine_faceAt size)

theorem faceAt_of_face? {resources : Resources F} {name : String} {size : Nat}
    {answer : Except ResourceError F} (h : resources.face? name size = some answer) :
    ∃ after, resources.faceAt name size = some (answer, after) := by
  cases asked : resources.faceAt name size with
  | none =>
    rw [face?_of_faceAt_none asked] at h
    cases h
  | some answered =>
    rw [(face?_of_faceAt asked).1] at h
    cases h
    exact ⟨answered.2, rfl⟩

/-- The faces that fonts keep do not change what fonts give. -/
theorem face?_congr {resources after : Resources F} (h : after.pristine = resources.pristine)
    (name : String) (size : Nat) : after.face? name size = resources.face? name size := by
  rw [← face?_pristine after, h, face?_pristine]

theorem get?_congr {resources after : Resources F} (h : after.pristine = resources.pristine)
    (key : String) : after.get? key = resources.get? key := by
  rw [← get?_pristine after, h, get?_pristine]

end Resources
end StyledText
