import Std.Data.ExtTreeMap
import StyledText.Resources.Error

/-!
# Typefaces

A typeface is one font at all sizes. It holds the faces that have been asked for: the font itself
serves its own size, and every other face is a copy of it, made when its size is first asked for.
What a typeface holds is what the font would give anyway, so no answer depends on the questions
before it.
-/

namespace StyledText

/-- A font at all sizes. -/
structure Typeface (F : Type) [FontFace F] where
  name : String
  base : F
  /-- The largest size that can be asked for. -/
  maxPointSize : Nat
  /-- The faces that have been asked for, by their sizes. -/
  faces : Std.ExtTreeMap Nat F
  /-- The font serves its own size. -/
  base_mem : faces[FontFace.pointSize base]? = some base
  /-- A face is the one that the font gives at its size. -/
  faces_variant : ∀ size face, faces[size]? = some face → FontFace.variant base size = .ok face

namespace Typeface

variable {F : Type} [FontFace F]

/-- The typeface of a font that has not been asked for any size. -/
def ofBase (name : String) (base : F) (maxPointSize : Nat) : Typeface F where
  name
  base
  maxPointSize
  faces := ({} : Std.ExtTreeMap Nat F).insert (FontFace.pointSize base) base
  base_mem := by simp
  faces_variant size face h := by
    rw [Std.ExtTreeMap.getElem?_insert] at h
    split at h
    · next same =>
      rw [Nat.compare_eq_eq] at same
      simp [FontFace.variant, same, ← Option.some.inj h]
    · simp at h

/-- The size can be asked for. -/
def InRange (typeface : Typeface F) (size : Nat) : Prop := 0 < size ∧ size ≤ typeface.maxPointSize

instance (typeface : Typeface F) (size : Nat) : Decidable (typeface.InRange size) :=
  inferInstanceAs (Decidable (_ ∧ _))

/-- The typeface with one more copy of its font. -/
def withCopy (typeface : Typeface F) (size : Nat) (face : F) (absent : typeface.faces[size]? = none)
    (copy : FontFace.copyAt typeface.base size = .ok face) : Typeface F :=
  have foreign : size ≠ FontFace.pointSize typeface.base := by
    rintro rfl
    simp [typeface.base_mem] at absent
  { typeface with
    faces := typeface.faces.insert size face
    base_mem := by
      rw [Std.ExtTreeMap.getElem?_insert, if_neg, typeface.base_mem]
      rwa [Nat.compare_eq_eq]
    faces_variant := fun n f h => by
      rw [Std.ExtTreeMap.getElem?_insert] at h
      split at h
      · next same =>
        rw [Nat.compare_eq_eq] at same
        simp [FontFace.variant, ← same, foreign, copy, ← Option.some.inj h]
      · exact typeface.faces_variant n f h }

/-- The face at a size, and the typeface afterwards. -/
def faceAt (typeface : Typeface F) (size : Nat) : Except ResourceError F × Typeface F :=
  if typeface.InRange size then
    match absent : typeface.faces[size]? with
    | some face => (.ok face, typeface)
    | none =>
      match copy : FontFace.copyAt typeface.base size with
      | .ok face => (.ok face, typeface.withCopy size face absent copy)
      | .error cause => (.error (.font cause), typeface)
  else
    (.error (.pointSizeOutOfRange size typeface.maxPointSize), typeface)

/-- How many faces it holds, the font itself included. -/
def size (typeface : Typeface F) : Nat := typeface.faces.size

end Typeface
end StyledText
