import Mathlib.Data.List.Perm.Subperm
import StyledText.Proofs.Faces

/-!
# The faces that a typeface keeps

A typeface keeps each face that it has made, and its own font from the beginning. What it keeps
after any questions can be told without going through them one by one: a face for each size in
range that was asked for and that the font has a copy at. Neither the order of the questions nor
their number has a part in that, and each copy is one of the font itself.

Results:
1. `Typeface.faceAt_cases`: the three things that a question can do.
2. `Typeface.getElem?_faces_askedFor`: the face that is kept at a size, after any questions.
3. `Typeface.transparent_of_asked`: what a new typeface answers and keeps after any questions.
-/

namespace StyledText
namespace Typeface

variable {F : Type} [FontFace F]

/-- The typeface after it has been asked for the faces at some sizes, in order. -/
def askedFor (typeface : Typeface F) (sizes : List Nat) : Typeface F :=
  sizes.foldl (fun typeface size => (typeface.faceAt size).2) typeface

/-! ## The same font

Typefaces that are the same but for the faces that they keep have the same font. -/

section Same

variable {typeface other : Typeface F} (h : other.pristine = typeface.pristine)
include h

theorem base_congr : other.base = typeface.base := by
  show other.pristine.base = typeface.pristine.base
  rw [h]

theorem inRange_congr (size : Nat) : other.InRange size ↔ typeface.InRange size := by
  show other.pristine.InRange size ↔ typeface.pristine.InRange size
  rw [h]

theorem answer_congr (size : Nat) : other.answer size = typeface.answer size := by
  show other.pristine.answer size = typeface.pristine.answer size
  rw [h]

theorem eq_of_faces (faces : other.faces = typeface.faces) : other = typeface := by
  obtain ⟨name, base, maxPointSize, _, _, _⟩ := other
  obtain ⟨_, _, _, _, _, _⟩ := typeface
  simp only [pristine, ofBase, mk.injEq] at h faces
  obtain ⟨rfl, rfl, rfl, -⟩ := h
  subst faces
  rfl

end Same

/-! ## One question -/

/-- A question is answered by a face that is kept, or by a new copy of the font, or it is refused
and leaves the typeface as it was. -/
theorem faceAt_cases (typeface : Typeface F) (size : Nat) :
    (∃ face, typeface.InRange size ∧ typeface.faces[size]? = some face ∧
      typeface.faceAt size = (.ok face, typeface)) ∨
    (∃ face absent copy, typeface.InRange size ∧
      typeface.faceAt size = (.ok face, typeface.withCopy size face absent copy)) ∨
    (∃ cause, typeface.faceAt size = (.error cause, typeface)) := by
  unfold faceAt
  split
  · next inRange =>
    split
    · next face kept => exact .inl ⟨face, inRange, kept, rfl⟩
    · next absent =>
      split
      · next face copy => exact .inr (.inl ⟨face, absent, copy, inRange, rfl⟩)
      · next cause copy => exact .inr (.inr ⟨.font cause, rfl⟩)
  · exact .inr (.inr ⟨_, rfl⟩)

theorem faceAt_of_refused {typeface : Typeface F} {size : Nat} {cause : ResourceError}
    (refused : (typeface.faceAt size).1 = .error cause) : (typeface.faceAt size).2 = typeface := by
  rcases typeface.faceAt_cases size with
    ⟨face, -, -, kept⟩ | ⟨face, absent, copy, -, made⟩ | ⟨cause, failed⟩
  · rw [kept]
  · rw [made] at refused
    cases refused
  · rw [failed]

theorem size_le_faceAt (typeface : Typeface F) (size : Nat) :
    typeface.size ≤ (typeface.faceAt size).2.size := by
  rcases typeface.faceAt_cases size with
    ⟨face, -, -, kept⟩ | ⟨face, absent, copy, -, made⟩ | ⟨cause, failed⟩
  · exact Nat.le_of_eq (by rw [kept])
  · rw [made]
    exact Std.ExtTreeMap.size_le_size_insert
  · exact Nat.le_of_eq (by rw [failed])

theorem answer_of_inRange {typeface : Typeface F} {size : Nat} (inRange : typeface.InRange size) :
    typeface.answer size = (FontFace.variant typeface.base size).mapError .font :=
  if_pos inRange

/-- A question for a size in range leaves the face of the font there, if the font has one. -/
theorem getElem?_faces_faceAt (typeface : Typeface F) (size n : Nat) :
    (typeface.faceAt size).2.faces[n]? =
      if n = size ∧ typeface.InRange n then (FontFace.variant typeface.base n).toOption
      else typeface.faces[n]? := by
  rcases typeface.faceAt_cases size with
    ⟨face, -, found, kept⟩ | ⟨face, absent, copy, inRange, made⟩ | ⟨cause, failed⟩
  · rw [kept]
    split
    · next asked =>
      rw [asked.1, found, typeface.faces_variant size face found]
      rfl
    · rfl
  · rw [made, withCopy, Std.ExtTreeMap.getElem?_insert]
    by_cases same : n = size
    · subst same
      rw [if_pos (Nat.compare_eq_eq.2 rfl), if_pos ⟨rfl, inRange⟩, variant_of_absent absent, copy]
      rfl
    · rw [if_neg (mt Nat.compare_eq_eq.1 (Ne.symm same)), if_neg (fun asked => same asked.1)]
  · rw [failed]
    split
    · next asked =>
      obtain ⟨rfl, inRange⟩ := asked
      -- A size in range is refused only for want of a copy, and then no face is kept there.
      have refused := typeface.faceAt_fst n
      rw [failed, answer_of_inRange inRange] at refused
      cases variant : FontFace.variant typeface.base n with
      | ok face =>
        rw [variant] at refused
        cases refused
      | error cause =>
        cases found : typeface.faces[n]? with
        | none => rfl
        | some face =>
          rw [typeface.faces_variant n face found] at variant
          cases variant
    · rfl

/-! ## Many questions -/

/-- The font, its name and its largest size stay the same. -/
theorem pristine_askedFor (typeface : Typeface F) (sizes : List Nat) :
    (typeface.askedFor sizes).pristine = typeface.pristine := by
  induction sizes generalizing typeface with
  | nil => rfl
  | cons size rest ih => exact (ih _).trans (typeface.pristine_faceAt size)

/-- What is kept at a size is the face of the font, if the size was among those asked for. -/
theorem getElem?_faces_askedFor (typeface : Typeface F) (sizes : List Nat) (n : Nat) :
    (typeface.askedFor sizes).faces[n]? =
      if n ∈ sizes ∧ typeface.InRange n then (FontFace.variant typeface.base n).toOption
      else typeface.faces[n]? := by
  induction sizes generalizing typeface with
  | nil => simp [askedFor]
  | cons size rest ih =>
    have pristine := typeface.pristine_faceAt size
    have step : typeface.askedFor (size :: rest) = (typeface.faceAt size).2.askedFor rest := rfl
    rw [step, ih, base_congr pristine, getElem?_faces_faceAt]
    simp only [inRange_congr pristine, List.mem_cons]
    by_cases later : n ∈ rest
    · by_cases within : typeface.InRange n <;> simp [later, within]
    · simp [later]

/-! ## New typefaces -/

/-- A new typeface after it has been asked for the faces at some sizes, in order. -/
def asked (name : String) (base : F) (maxPointSize : Nat) (sizes : List Nat) : Typeface F :=
  (ofBase name base maxPointSize).askedFor sizes

section New

variable (name : String) (base : F) (maxPointSize : Nat) (sizes : List Nat)

theorem pristine_asked :
    (asked name base maxPointSize sizes).pristine = (ofBase name base maxPointSize).pristine :=
  pristine_askedFor _ sizes

/-- A new typeface keeps its font and the copies that were asked for. -/
theorem getElem?_faces_asked (n : Nat) :
    (asked name base maxPointSize sizes).faces[n]? =
      if n = FontFace.pointSize base then some base
      else if n ∈ sizes ∧ 0 < n ∧ n ≤ maxPointSize then (FontFace.copyAt base n).toOption
      else none := by
  have range : (ofBase name base maxPointSize).InRange n ↔ 0 < n ∧ n ≤ maxPointSize := Iff.rfl
  have font : (ofBase name base maxPointSize).base = base := rfl
  have first : (ofBase name base maxPointSize).faces[n]? =
      if n = FontFace.pointSize base then some base else none := by
    simp [ofBase, Std.ExtTreeMap.getElem?_insert, eq_comm (a := n)]
  rw [asked, getElem?_faces_askedFor, font, first]
  simp only [range, FontFace.variant]
  by_cases own : n = FontFace.pointSize base
  · simp only [if_pos own]
    exact ite_self _
  · simp only [if_neg own]

theorem mem_faces_asked (n : Nat) :
    n ∈ (asked name base maxPointSize sizes).faces ↔
      n = FontFace.pointSize base ∨
        n ∈ sizes ∧ 0 < n ∧ n ≤ maxPointSize ∧ ∃ face, FontFace.copyAt base n = .ok face := by
  rw [Std.ExtTreeMap.mem_iff_isSome_getElem?, getElem?_faces_asked]
  by_cases own : n = FontFace.pointSize base
  · simp [own]
  · cases copy : FontFace.copyAt base n <;>
      by_cases asked : n ∈ sizes ∧ 0 < n ∧ n ≤ maxPointSize <;> simp_all [Except.toOption]

/-- Besides the font itself there is room for one face at each size in range. -/
theorem size_asked_le :
    (asked name base maxPointSize sizes).size ≤ maxPointSize + 1 := by
  have inside : (asked name base maxPointSize sizes).faces.keys ⊆
      FontFace.pointSize base :: List.range' 1 maxPointSize := by
    intro n kept
    rw [Std.ExtTreeMap.mem_keys, mem_faces_asked] at kept
    rw [List.mem_cons, List.mem_range'_1]
    rcases kept with own | ⟨-, positive, within, -⟩
    · exact .inl own
    · exact .inr (by omega)
  have count := (List.subperm_of_subset Std.ExtTreeMap.nodup_keys inside).length_le
  rwa [Std.ExtTreeMap.length_keys, List.length_cons, List.length_range'] at count

/-- A new typeface is transparent, whatever it has been asked for. Its answer at a size is that of
its font: none out of range, the font itself at its own size, and else a copy of the font or the
error of copying it. It keeps the font, and of the sizes in range that were asked for those that the
font has a copy at, so the order of the questions shows nowhere. A question that is refused changes
nothing, no question drops a face, and there are never more faces than sizes in range and the
font. -/
theorem transparent_of_asked :
    (∀ n, ((asked name base maxPointSize sizes).faceAt n).1 =
      if n = 0 ∨ maxPointSize < n then .error (.pointSizeOutOfRange n maxPointSize)
      else if n = FontFace.pointSize base then .ok base
      else (FontFace.copyAt base n).mapError .font) ∧
    (∀ n, n ∈ (asked name base maxPointSize sizes).faces ↔ n = FontFace.pointSize base ∨
      n ∈ sizes ∧ 0 < n ∧ n ≤ maxPointSize ∧ ∃ face, FontFace.copyAt base n = .ok face) ∧
    (∀ n, (asked name base maxPointSize sizes).faces[n]? =
      if n = FontFace.pointSize base then some base
      else if n ∈ sizes ∧ 0 < n ∧ n ≤ maxPointSize then (FontFace.copyAt base n).toOption
      else none) ∧
    (∀ others, (∀ n, n ∈ others ↔ n ∈ sizes) →
      asked name base maxPointSize others = asked name base maxPointSize sizes) ∧
    (∀ n cause, ((asked name base maxPointSize sizes).faceAt n).1 = .error cause →
      ((asked name base maxPointSize sizes).faceAt n).2 = asked name base maxPointSize sizes) ∧
    (∀ n, (asked name base maxPointSize sizes).size ≤
      ((asked name base maxPointSize sizes).faceAt n).2.size) ∧
    (asked name base maxPointSize sizes).size ≤ maxPointSize + 1 := by
  refine ⟨?_, mem_faces_asked name base maxPointSize sizes,
    getElem?_faces_asked name base maxPointSize sizes, ?_, fun n cause => faceAt_of_refused,
    fun n => size_le_faceAt _ n, size_asked_le name base maxPointSize sizes⟩
  · intro n
    have range : (ofBase name base maxPointSize).InRange n ↔ ¬(n = 0 ∨ maxPointSize < n) := by
      show 0 < n ∧ n ≤ maxPointSize ↔ _
      omega
    have font : (ofBase name base maxPointSize).base = base := rfl
    rw [faceAt_fst, answer_congr (pristine_asked name base maxPointSize sizes), answer, font,
      FontFace.variant]
    simp only [range, ite_not]
    by_cases own : n = FontFace.pointSize base
    · simp only [if_pos own]
      rfl
    · simp only [if_neg own]
      rfl
  · intro others same
    have font := (pristine_asked name base maxPointSize others).trans
      (pristine_asked name base maxPointSize sizes).symm
    refine eq_of_faces font (Std.ExtTreeMap.ext_getElem? fun n => ?_)
    rw [getElem?_faces_asked, getElem?_faces_asked]
    simp only [same]

end New

end Typeface
end StyledText
