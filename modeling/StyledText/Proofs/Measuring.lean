import StyledText.Proofs.Failure
import StyledText.Proofs.PlainFonts
import StyledText.Proofs.Rounding

/-!
# Measuring texts

A text that is not shaped is as wide as the advances of its characters together, and these are added
up in 32 bits. An advance has 16 bits at most, so the sum is exact for every text of up to 32768
characters, and there the width is not negative and does not get smaller when the text gets longer.
For a longer text the sum may reach `2 ^ 31`, and then the program ends.

The sum is scaled to a width, and a width that is too large for the grid is moved to its end. A run
of text that can be measured is laid out exactly if there is room for a box of its measured width.

Results:
1. `advanceSum?_of_unshaped`: the sum of the advances is the exact one or none.
2. `TrueTypeFont.measure_of_unshaped`: when a text can be measured, and its extent.
3. `TrueTypeFont.widthOf_mono`: widths grow with the sums.
4. `TrueTypeFont.measure_exact_iff`: all of this for every font that can be loaded, and what becomes
   of a run of text in a free slot.
-/

namespace StyledText

/-! ## Sums of advances -/

/-- The advances of a text together, however many there are. -/
def fullAdvance (advance : Char → Nat) (text : String) : Nat := (text.toList.map advance).sum

theorem fullAdvance_append (advance : Char → Nat) (text more : String) :
    fullAdvance advance (text ++ more) = fullAdvance advance text + fullAdvance advance more := by
  simp only [fullAdvance, String.toList_append, List.map_append, List.sum_append]

theorem fullAdvance_replicate (advance : Char → Nat) (n : Nat) (c : Char) :
    fullAdvance advance (String.ofList (List.replicate n c)) = n * advance c := by
  rw [fullAdvance, String.toList_ofList, List.map_replicate, List.sum_replicate, smul_eq_mul]

theorem fullAdvance_le {advance : Char → Nat} (h : ∀ c, advance c < 0x10000) (text : String) :
    fullAdvance advance text ≤ text.length * 0xFFFF := by
  have bound := List.sum_le_card_nsmul (text.toList.map advance) 0xFFFF (by
    intro n inside
    obtain ⟨c, -, rfl⟩ := List.mem_map.1 inside
    exact Nat.le_of_lt_succ (h c))
  rwa [List.length_map, String.length_toList, smul_eq_mul] at bound

/-- Numbers of 16 bits that are added up in 32 bits give their sum, if that has 32 bits. The
induction is on the numbers still to come, with any sum so far; once it overflows, the sum of all
does too, since none of them is negative. -/
theorem foldlM_add? {numbers : List Nat} (small : ∀ n ∈ numbers, n < 0x10000) {first : Int32}
    (nonneg : 0 ≤ first.toInt) :
    (numbers.map Int32.ofNat).foldlM Coordinate.add? first =
      Coordinate.ofInt? (first.toInt + numbers.sum) := by
  induction numbers generalizing first with
  | nil =>
    rw [List.sum_nil, Nat.cast_zero, add_zero]
    exact (Coordinate.ofInt?_eq_some_iff.2 rfl).symm
  | cons n rest ih =>
    have own : (Int32.ofNat n).toInt = n :=
      Int32.toInt_ofNat_of_lt (Nat.lt_trans (small n List.mem_cons_self) (by decide))
    rw [List.map_cons, List.foldlM_cons, List.sum_cons, Nat.cast_add, ← add_assoc, Coordinate.add?,
      own]
    cases added : Coordinate.ofInt? (first.toInt + n) with
    | none =>
      have outside := Coordinate.ofInt?_eq_none_iff.1 added
      refine (Coordinate.ofInt?_eq_none_iff.2 ?_).symm
      unfold Coordinate.InRange at outside ⊢
      omega
    | some next =>
      have exact := Coordinate.ofInt?_eq_some_iff.1 added
      rw [← exact]
      exact ih (fun m inside => small m (List.mem_cons_of_mem _ inside)) (by omega)

/-- The advances of a text that is not shaped have their exact sum, or none. -/
theorem advanceSum?_of_unshaped {face : ParsedFace} {advance : Char → Nat}
    (unshaped : face.Unshaped advance) (text : String) :
    advanceSum? (face.shape text) = Coordinate.ofInt? (fullAdvance advance text) := by
  have numbers : text.toList.map (fun c => Int32.ofNat (advance c)) =
      (text.toList.map advance).map Int32.ofNat := by
    rw [List.map_map]
    rfl
  rw [advanceSum?, unshaped.shape, numbers, foldlM_add? _ (le_refl 0), Int32.toInt_zero, zero_add]
  · rfl
  · intro n inside
    obtain ⟨c, -, rfl⟩ := List.mem_map.1 inside
    exact unshaped.advance_lt c

namespace TrueTypeFont

variable {parser : FontParser} {data : ByteArray} {index pointSize : Nat}
  {font : TrueTypeFont parser} {face : ParsedFace} {advance : Char → Nat}

section

variable (loaded : ofBytes parser data index pointSize = .ok font)
  (parsed : parser data index = some face)

include loaded parsed

theorem eq_of_ofBytes : font = ⟨data, index, pointSize, face.family?, face.metrics⟩ := by
  rw [ofBytes, parsed] at loaded
  cases loaded
  rfl

/-- A text can be measured exactly if its advances together are below `2 ^ 31`. -/
theorem measure_of_unshaped (unshaped : face.Unshaped advance) (text : String) :
    FontFace.measure font text =
      if fullAdvance advance text < 0x80000000 then
        .ok ⟨font.widthOf (fullAdvance advance text), font.lineHeight⟩
      else .error (.panicked "attempt to add with overflow") := by
  have sum := advanceSum?_of_unshaped unshaped text
  have read : parser font.data font.index = some face := by
    rw [eq_of_ofBytes loaded parsed]
    exact parsed
  have fits : Coordinate.InRange (fullAdvance advance text : Int) ↔
      fullAdvance advance text < 0x80000000 := by
    unfold Coordinate.InRange
    omega
  show font.measure text = _
  rw [measure, read]
  dsimp only
  rw [sum, Coordinate.ofInt?]
  by_cases small : fullAdvance advance text < 0x80000000
  · rw [if_pos (fits.2 small), if_pos small]
    dsimp only
    rw [Coordinate.toInt_ofInt (fits.2 small)]
  · rw [if_neg (mt fits.1 small), if_neg small]

/-! ## Widths -/

theorem nonNegative_scale (unshaped : face.Unshaped advance) : font.scale.NonNegative := by
  obtain ⟨units, hasUnits⟩ :=
    Int.eq_ofNat_of_zero_le (Int.le_trans (by decide) unshaped.unitsPerEm.1)
  have bounds := unshaped.unitsPerEm
  rw [hasUnits] at bounds
  have whole : Binary32.Representable (units * Binary32.one) :=
    Binary32.representable_whole (Nat.le_trans (Int.ofNat_le.1 bounds.2) (by decide))
  have divisor : font.metrics.unitsPerEm = .finite false (units * Binary32.one) whole := by
    rw [eq_of_ofBytes loaded parsed]
    show Binary32.ofInt face.unitsPerEm = _
    rw [hasUnits, Binary32.ofInt_natCast]
    exact Binary32.ofRatio_of_representable false whole
  rw [scale, divisor]
  refine Binary32.nonNegative_div (Binary32.nonNegative_ofRatio _ _) whole
    (Nat.mul_pos ?_ Binary32.one_pos)
  exact Nat.lt_of_lt_of_le (by decide) (Int.ofNat_le.1 bounds.1)

/-- A width is not negative, and it does not get smaller when the advances together get larger. -/
theorem widthOf_mono (unshaped : face.Unshaped advance) {m n : Nat} (le : m ≤ n)
    (small : n < 0x80000000) :
    0 ≤ (font.widthOf m).toInt ∧ (font.widthOf m).toInt ≤ (font.widthOf n).toInt := by
  obtain ⟨hm, first⟩ := Binary32.ofNat_finite (Nat.le_trans le small.le)
  obtain ⟨hn, second⟩ := Binary32.ofNat_finite small.le
  rw [widthOf, widthOf, Binary32.ofInt_natCast, Binary32.ofInt_natCast, first, second]
  refine Binary32.ceil_mul_mono (nonNegative_scale loaded parsed unshaped) ?_ hm hn
  exact Binary32.roundUnits_mono (Nat.mul_le_mul_right _ le) 1

end

end TrueTypeFont

/-! ## Runs of text in a free slot -/

/-- What becomes of a run of text in a free slot depends on its extent alone: it is drawn exactly if
there is room for it. -/
theorem Pass.drawText_of_room {F : Type} [FontFace F] {pass : Pass F} {maxFragments : Nat}
    (text : String) (slot : pass.written < maxFragments) (inside : pass.state.bounds.Fits) :
    match FontFace.measure pass.state.font text with
    | .ok metrics =>
      let box : Bounds :=
        ⟨pass.state.cursor.x, pass.state.cursor.y, metrics.width, metrics.height⟩
      ((∃ next, pass.step maxFragments (.drawText text) = .ok next) ↔ pass.state.HasRoom box) ∧
        (pass.step maxFragments (.drawText text) = .error (.coordinateOverflow pass.written) ↔
          ¬pass.state.HasRoom box)
    | .error cause => pass.step maxFragments (.drawText text) = .error (.font cause) := by
  rw [step_eq]
  dsimp only
  rw [drawText_eq, if_pos slot]
  cases FontFace.measure pass.state.font text with
  | error cause => rfl
  | ok metrics =>
    dsimp only [place, Fragment.box]
    rw [LayoutState.hasRoom_iff inside]
    cases pass.state.bounds.extend?
        ⟨pass.state.cursor.x, pass.state.cursor.y, metrics.width, metrics.height⟩ with
    | none => simp
    | some bounds => cases pass.state.cursor.x.add? metrics.width <;> simp

namespace TrueTypeFont

/-- In a font that is loaded from a face whose texts are not shaped, the advances of a text have
their exact sum in 32 bits, and the text can be measured, exactly if that sum is below `2 ^ 31`;
otherwise the program ends. The sum is small enough for every text of up to 32768 characters. Where
it is, it is for each text in front; then no width is negative and the longer text is not narrower.
A run of text in a free slot ends the program if it cannot be measured. If it can, it is drawn
exactly if there is room for a box of the measured width, and otherwise coordinates overflow. -/
theorem measure_exact_iff {parser : FontParser} {data : ByteArray} {index pointSize : Nat}
    {font : TrueTypeFont parser} {face : ParsedFace} {advance : Char → Nat}
    (loaded : ofBytes parser data index pointSize = .ok font)
    (parsed : parser data index = some face) (unshaped : face.Unshaped advance) (text : String) :
    ((∃ sum, advanceSum? (face.shape text) = some sum ∧ sum.toInt = fullAdvance advance text) ↔
      fullAdvance advance text < 0x80000000) ∧
    (FontFace.measure font text =
      if fullAdvance advance text < 0x80000000 then
        .ok ⟨font.widthOf (fullAdvance advance text), font.lineHeight⟩
      else .error (.panicked "attempt to add with overflow")) ∧
    (text.length ≤ 0x8000 → fullAdvance advance text < 0x80000000) ∧
    (∀ front back, text = front ++ back → fullAdvance advance text < 0x80000000 →
      ∃ metrics longer, FontFace.measure font front = .ok metrics ∧
        FontFace.measure font text = .ok longer ∧ 0 ≤ metrics.width.toInt ∧
        metrics.width.toInt ≤ longer.width.toInt) ∧
    ∀ (pass : Pass (TrueTypeFont parser)) (maxFragments : Nat), pass.state.font = font →
      pass.written < maxFragments → pass.state.bounds.Fits →
        (0x80000000 ≤ fullAdvance advance text →
          pass.step maxFragments (.drawText text) =
            .error (.font (.panicked "attempt to add with overflow"))) ∧
        (fullAdvance advance text < 0x80000000 →
          let box : Bounds := ⟨pass.state.cursor.x, pass.state.cursor.y,
            font.widthOf (fullAdvance advance text), font.lineHeight⟩
          ((∃ next, pass.step maxFragments (.drawText text) = .ok next) ↔
              pass.state.HasRoom box) ∧
            (pass.step maxFragments (.drawText text) =
                .error (.coordinateOverflow pass.written) ↔
              ¬pass.state.HasRoom box)) := by
  have measured := measure_of_unshaped loaded parsed unshaped
  refine ⟨?_, measured text, ?_, ?_, ?_⟩
  · simp only [advanceSum?_of_unshaped unshaped, Coordinate.ofInt?_eq_some_iff]
    constructor
    · rintro ⟨sum, exact, -⟩
      have inRange := Coordinate.toInt_inRange sum
      unfold Coordinate.InRange at inRange
      omega
    · intro small
      have fits : Coordinate.InRange (fullAdvance advance text : Int) := by
        unfold Coordinate.InRange
        omega
      exact ⟨_, Coordinate.toInt_ofInt fits, Coordinate.toInt_ofInt fits⟩
  · intro short
    have bound := fullAdvance_le unshaped.advance_lt text
    omega
  · rintro front back rfl small
    have longer := fullAdvance_append advance front back
    have small' : fullAdvance advance front < 0x80000000 := by omega
    have le : fullAdvance advance front ≤ fullAdvance advance (front ++ back) := by omega
    obtain ⟨nonnegative, grows⟩ := widthOf_mono loaded parsed unshaped le small
    exact ⟨_, _, (measured front).trans (if_pos small'), (measured _).trans (if_pos small),
      nonnegative, grows⟩
  · rintro pass maxFragments rfl slot inside
    have drawn := Pass.drawText_of_room text slot inside
    rw [measured text] at drawn
    constructor
    · intro large
      rwa [if_neg (Nat.not_lt_of_le large)] at drawn
    · intro small
      rwa [if_pos small] at drawn

/-- The extent of a sum of advances in a font of the file, at a point size. -/
def wideExtent (pointSize : Nat) (sum : Int) : TextMetrics :=
  let scale := Binary32.ofNat pointSize / .ofInt 1000
  ⟨(.ofInt sum * scale).ceil, ((.ofInt 800 - .ofInt (-200) + .ofInt 0) * scale).ceil⟩

theorem extent_of_wideFile {pointSize : Nat} {font : TrueTypeFont Sfnt.parse} {face : ParsedFace}
    (loaded : ofBytes Sfnt.parse Sfnt.wideFile 0 pointSize = .ok font)
    (parsed : Sfnt.parse Sfnt.wideFile 0 = some face)
    (metrics : face.metrics = ⟨.ofInt 1000, .ofInt 800, .ofInt (-200), .ofInt 0⟩) (sum : Int) :
    ⟨font.widthOf sum, font.lineHeight⟩ = wideExtent pointSize sum := by
  rw [eq_of_ofBytes loaded parsed, metrics]
  rfl

/-- The pass with which a layout in a font begins. -/
def firstPass (font : TrueTypeFont Sfnt.parse) : Pass (TrueTypeFont Sfnt.parse) where
  resources := .empty default
  slots := #[]
  written := 0
  state := Typesetter.initialState default font "main"

/-- The widest and highest box of the grid has room at its origin. -/
theorem hasRoom_firstPass (font : TrueTypeFont Sfnt.parse) :
    (firstPass font).state.HasRoom ⟨0, 0, 0x7FFFFFFF, 0x7FFFFFFF⟩ := by
  refine ⟨⟨by decide, by decide⟩, ?_, ?_, ?_⟩
  · show Coordinate.InRange (Bounds.empty.joinedWidth ⟨0, 0, 0x7FFFFFFF, 0x7FFFFFFF⟩)
    decide
  · show Coordinate.InRange (Bounds.empty.joinedHeight ⟨0, 0, 0x7FFFFFFF, 0x7FFFFFFF⟩)
    decide
  · show Coordinate.InRange ((0 : Int32).toInt + (0x7FFFFFFF : Int32).toInt)
    decide

/-- In a font of 1000 units, a letter of 65535 units is too much if it stands 32769 times, and one
time less it is not. At the largest size even one letter is wider than the grid; it is measured as
wide as the grid allows, and drawn. -/
theorem measure_exact_iff_wide :
    ∃ font huge face advance,
      ofBytes Sfnt.parse Sfnt.wideFile 0 12 = .ok font ∧
      ofBytes Sfnt.parse Sfnt.wideFile 0 0xFFFFFFFF = .ok huge ∧
      Sfnt.parse Sfnt.wideFile 0 = some face ∧ face.Unshaped advance ∧
      let wide := String.ofList (List.replicate 32769 'a')
      let fitting := String.ofList (List.replicate 32768 'a')
      fullAdvance advance wide = 2147516415 ∧
        FontFace.measure font wide = .error (.panicked "attempt to add with overflow") ∧
        (firstPass font).step 128 (.drawText wide) =
          .error (.font (.panicked "attempt to add with overflow")) ∧
        FontFace.measure font fitting = .ok ⟨25769410, 12⟩ ∧
        FontFace.measure huge "a" = .ok ⟨0x7FFFFFFF, 0x7FFFFFFF⟩ ∧
        ∃ next, (firstPass huge).step 128 (.drawText "a") = .ok next := by
  obtain ⟨face, advance, parsed, unshaped, widest, metrics⟩ := Sfnt.parse_wideFile
  obtain ⟨font, loaded⟩ := Sfnt.exists_ofBytes_wideFile 12
  obtain ⟨huge, loaded'⟩ := Sfnt.exists_ofBytes_wideFile 0xFFFFFFFF
  refine ⟨font, huge, face, advance, loaded, loaded', parsed, unshaped, ?_⟩
  intro wide fitting
  have total : fullAdvance advance wide = 2147516415 := by
    rw [fullAdvance_replicate, widest]
  have total' : fullAdvance advance fitting = 2147450880 := by
    rw [fullAdvance_replicate, widest]
  have single : fullAdvance advance "a" = 65535 := by
    rw [show "a" = String.ofList (List.replicate 1 'a') from rfl, fullAdvance_replicate, widest]
  obtain ⟨-, measured, -, -, drawn⟩ := measure_exact_iff loaded parsed unshaped wide
  obtain ⟨-, fits, -⟩ := measure_exact_iff loaded parsed unshaped fitting
  obtain ⟨-, clamped, -, -, drawn'⟩ := measure_exact_iff loaded' parsed unshaped "a"
  rw [total] at measured drawn
  rw [total'] at fits
  rw [single] at clamped drawn'
  have extent : ⟨huge.widthOf 65535, huge.lineHeight⟩ = (⟨0x7FFFFFFF, 0x7FFFFFFF⟩ : TextMetrics) :=
    (extent_of_wideFile loaded' parsed metrics 65535).trans (by decide +kernel)
  refine ⟨total, measured, ?_, ?_, ?_, ?_⟩
  · have slot : (firstPass font).written < 128 := show 0 < 128 by decide
    exact (drawn (firstPass font) 128 rfl slot Bounds.fits_empty).1 (by decide)
  · rw [fits, if_pos (by decide)]
    exact congrArg Except.ok
      ((extent_of_wideFile loaded parsed metrics 2147450880).trans (by decide +kernel))
  · rw [clamped, if_pos (by decide)]
    exact congrArg Except.ok extent
  · have slot : (firstPass huge).written < 128 := show 0 < 128 by decide
    obtain ⟨draws, -⟩ := (drawn' (firstPass huge) 128 rfl slot Bounds.fits_empty).2 (by decide)
    refine draws.2 ?_
    obtain ⟨width, height⟩ := TextMetrics.mk.inj extent
    show (firstPass huge).state.HasRoom ⟨0, 0, huge.widthOf 65535, huge.lineHeight⟩
    rw [width, height]
    exact hasRoom_firstPass huge

end TrueTypeFont
end StyledText
