import Mathlib
import StyledText.Font.FixedPitch
import StyledText.Proofs.Commands
import StyledText.Proofs.Registrations
import StyledText.Proofs.Values

/-!
# Images in the middle of a line

An image stands with its middle on the middle of its line, at half the line height less half its own
height from the line. Its place is rounded once, and towards zero, after the line has been added. An
image of even height is not rounded at all. One of odd height is moved by a half, up if its top is
below the origin and down if it is above, so its distance to the line is not the same on all lines.

Results:
1. `toInt_imageY`: the place of an image, as long as all numbers are exact.
2. `offset_eq_iff`: when an image is at the same distance from two lines.
3. `Typesetter.imageOffset_eq_iff`: the same for the images of any two layouts.
-/

namespace StyledText

/-- Twice the distance of the top of an image from the origin, before it is rounded. -/
def doubledTop (line lineHeight height : Int) : Int :=
  2 * line + 2 * lineHeight.tdiv 2 - height

/-! ## Exact places -/

theorem tdiv_two (n : Int) : n.tdiv 2 = if 0 ≤ n then n / 2 else -(-n / 2) := by
  split
  · next positive => exact Int.tdiv_eq_ediv_of_nonneg positive
  · next negative => rw [← Int.tdiv_eq_ediv_of_nonneg (by omega), Int.neg_tdiv, Int.neg_neg]

/-- The place of an image is half its doubled top, without the fraction. -/
theorem toInt_imageY {line lineHeight : Coordinate} {height : Binary32} {whole : Int}
    (value : height.value? = some (whole : ℚ)) (smallLine : line.toInt.natAbs < 0x100000)
    (smallLineHeight : lineHeight.toInt.natAbs < 0x100000) (smallHeight : whole.natAbs < 0x100000) :
    (imageY line lineHeight height).toInt =
      (doubledTop line.toInt lineHeight.toInt whole).tdiv 2 := by
  have middle : (lineHeight / 2).toInt = lineHeight.toInt.tdiv 2 :=
    Int32.toInt_div_of_ne_right _ _ (by decide)
  have smallMiddle : (lineHeight.toInt.tdiv 2).natAbs < 0x100000 := by
    rw [tdiv_two]
    split <;> omega
  have halves {a : Coordinate} (small : a.toInt.natAbs < 0x100000) :
      a.toBinary32.value? = some ((2 * a.toInt : Int) / 2 : ℚ) := by
    rw [Coordinate.toBinary32, Binary32.value?_ofInt (by omega), Int.cast_mul, Int.cast_ofNat,
      mul_div_cancel_left₀ _ two_ne_zero]
  have sum := Binary32.value?_add_halves (halves smallLine)
    (halves (a := lineHeight / 2) (by rwa [middle])) (by omega)
  have top := Binary32.value?_sub_halves sum (Binary32.value?_half value (by omega)) (by omega)
  rw [middle] at top
  have fits : Coordinate.InRange ((doubledTop line.toInt lineHeight.toInt whole).tdiv 2) := by
    rw [tdiv_two]
    unfold doubledTop
    constructor <;> split <;> omega
  exact Binary32.toInt_truncate_of_ratio (d := 2) top Nat.two_pos fits

/-- Two lines have an image at the same distance exactly if its height is even, or if its top is on
the same side of the origin for both. -/
theorem offset_eq_iff (line line' lineHeight height : Int) :
    (doubledTop line lineHeight height).tdiv 2 - line =
        (doubledTop line' lineHeight height).tdiv 2 - line' ↔
      Even height ∨
        (0 < doubledTop line lineHeight height ↔ 0 < doubledTop line' lineHeight height) := by
  rw [Int.even_iff, tdiv_two, tdiv_two]
  unfold doubledTop
  generalize lineHeight.tdiv 2 = middle
  split <;> split <;> omega

/-- An image of even height is at half the line height less half its height from every line. -/
theorem offset_of_even (line lineHeight : Int) {height : Int} (even : Even height) :
    (doubledTop line lineHeight height).tdiv 2 - line = lineHeight.tdiv 2 - height / 2 := by
  rw [Int.even_iff] at even
  rw [tdiv_two]
  unfold doubledTop
  generalize lineHeight.tdiv 2 = middle
  split <;> omega

/-! ## Images of layouts -/

namespace Typesetter

variable {F : Type} [FontFace F]

/-- A layout draws an image behind some commands: these lead to the state, and the image becomes the
fragment. -/
structure DrawsImage (t : Typesetter F) (resources : Resources F) (front : CommandList)
    (image : Image) (state : LayoutState F) (shown : ImageFragment) : Prop where
  reached : (t.typeset resources front).2.1.state = some state
  drawn : ∃ key, resources.get? key = some (.image image) ∧
    (t.typeset resources (front ++ [.drawImage key])).2.1.fragments.getLast? = some (.image shown)

/-- A layout that has a state is that of a draft. -/
theorem draft_of_state {t : Typesetter F} {resources : Resources F} {list : CommandList}
    {state : LayoutState F} (known : (t.typeset resources list).2.1.state = some state) :
    ∃ draft, Draft.ofList t.config resources list = .ok draft ∧ draft.state = state := by
  cases made : Draft.ofList t.config resources list with
  | error e =>
    obtain ⟨next, after, failed, shows⟩ := typeset_of_error made
    rw [failed, shows.state] at known
    cases known
  | ok draft =>
    obtain ⟨next, after, done, shows⟩ := typeset_of_ok made
    rw [done, shows.state] at known
    exact ⟨draft, rfl, Option.some.inj known⟩

/-- A layout that has a fragment is that of a draft. -/
theorem draft_of_getLast? {t : Typesetter F} {resources : Resources F} {list : CommandList}
    {fragment : Fragment F}
    (isLast : (t.typeset resources list).2.1.fragments.getLast? = some fragment) :
    ∃ draft, Draft.ofList t.config resources list = .ok draft ∧
      draft.fragments.getLast? = some fragment := by
  cases made : Draft.ofList t.config resources list with
  | error e =>
    obtain ⟨next, after, failed, shows⟩ := typeset_of_error made
    rw [failed, shows.fragments] at isLast
    cases isLast
  | ok draft =>
    obtain ⟨next, after, done, shows⟩ := typeset_of_ok made
    rw [done, shows.fragments] at isLast
    exact ⟨draft, rfl, isLast⟩

theorem DrawsImage.y_eq {t : Typesetter F} {resources : Resources F} {front : CommandList}
    {image : Image} {state : LayoutState F} {shown : ImageFragment}
    (h : t.DrawsImage resources front image state shown) :
    shown.position.y = imageY state.cursor.y (FontFace.lineHeight state.font)
      image.size.height := by
  obtain ⟨known, key, found, isLast⟩ := h
  obtain ⟨draft, made, rfl⟩ := draft_of_state known
  obtain ⟨last, made', isLast⟩ := draft_of_getLast? isLast
  -- The second layout is one command longer than the first, and that command draws.
  obtain ⟨first, started, ran⟩ := Draft.ofList_eq_ok_iff.1 made
  obtain ⟨first', started', ran'⟩ := Draft.ofList_eq_ok_iff.1 made'
  cases started.symm.trans started'
  rw [Draft.run_append, ran] at ran'
  obtain ⟨next, stepped, done⟩ := Draft.run_cons_eq_ok_iff.1 ran'
  cases done
  rw [Draft.step, found] at stepped
  have drawn : draft.draw t.config.maxFragments (.image image) = .ok last := stepped
  obtain ⟨-, fragment, shape, placed⟩ := Draft.draw_eq_ok_iff.1 drawn
  rw [(Draft.place_eq_ok placed).1, List.getLast?_concat] at isLast
  cases shape
  cases isLast
  rfl

/-- Two layouts draw images of the same height in lines of the same height. Each is at half its
doubled top, without the fraction. They are at the same distance from their lines exactly if the
height is even, or if the tops are on the same side of the origin; and an image of even height is at
half the line height less half its own. -/
theorem imageOffset_eq_iff {t u : Typesetter F} {resources others : Resources F}
    {front back : CommandList} {image icon : Image} {state reached : LayoutState F}
    {shown other : ImageFragment} {lineHeight height : Int}
    (first : t.DrawsImage resources front image state shown)
    (second : u.DrawsImage others back icon reached other)
    (line : (FontFace.lineHeight state.font).toInt = lineHeight)
    (line' : (FontFace.lineHeight reached.font).toInt = lineHeight)
    (value : image.size.height.value? = some (height : ℚ))
    (value' : icon.size.height.value? = some (height : ℚ))
    (small : ∀ n ∈ [state.cursor.y.toInt, reached.cursor.y.toInt, lineHeight, height],
      n.natAbs < 0x100000) :
    shown.position.y.toInt =
        (doubledTop state.cursor.y.toInt lineHeight height).tdiv 2 ∧
      (shown.position.y.toInt - state.cursor.y.toInt =
          other.position.y.toInt - reached.cursor.y.toInt ↔
        Even height ∨
          (0 < doubledTop state.cursor.y.toInt lineHeight height ↔
            0 < doubledTop reached.cursor.y.toInt lineHeight height)) ∧
      (Even height → shown.position.y.toInt - state.cursor.y.toInt =
        lineHeight.tdiv 2 - height / 2) := by
  subst line
  simp only [List.forall_mem_cons] at small
  obtain ⟨smallLine, smallLine', smallLineHeight, smallHeight, -⟩ := small
  have top : shown.position.y.toInt = _ :=
    first.y_eq ▸ toInt_imageY value smallLine smallLineHeight smallHeight
  have top' : other.position.y.toInt = _ :=
    second.y_eq ▸ toInt_imageY value' smallLine' (line'.symm ▸ smallLineHeight) smallHeight
  rw [line'] at top'
  refine ⟨top, ?_, ?_⟩
  · rw [top, top']
    exact offset_eq_iff ..
  · intro even
    rw [top]
    exact offset_of_even _ _ even

/-- An image of odd height, which is one more than the line height. -/
def panel : Image := { size := ⟨.ofInt 8, .ofInt 13⟩ }

/-- A font whose lines are twelve high, and the image. -/
def panels : Resources FixedPitch :=
  Resources.registered default
    [.font { family := some "Mono", pointSize := 12 } none, .image "panel" panel]

/-- The image is at the first line, and one above the second. -/
theorem imageOffset_eq_iff_panel :
    ∃ (state reached : LayoutState FixedPitch) (shown other : ImageFragment),
      (new default).DrawsImage panels [] panel state shown ∧
      (new default).DrawsImage panels [.drawImage "panel", .newline] panel reached other ∧
      FontFace.lineHeight state.font = 12 ∧ FontFace.lineHeight reached.font = 12 ∧
      panel.size.height.value? = some ((13 : Int) : ℚ) ∧
      state.cursor.y = 0 ∧ shown.position.y = 0 ∧
      reached.cursor.y = 12 ∧ other.position.y = 11 ∧
      shown.position.y.toInt - state.cursor.y.toInt ≠
        other.position.y.toInt - reached.cursor.y.toInt := by
  let mono : FixedPitch := { family := some "Mono", pointSize := 12 }
  have first : (new default).DrawsImage panels [] panel
      ⟨.white, mono, 12, "Mono", ⟨0, 0⟩, .empty⟩ ⟨panel, ⟨0, 0⟩, panel.size⟩ :=
    ⟨by decide +kernel, "panel", by decide +kernel, by decide +kernel⟩
  have second : (new default).DrawsImage panels [.drawImage "panel", .newline] panel
      ⟨.white, mono, 12, "Mono", ⟨0, 12⟩, ⟨0, 0, 8, 13⟩⟩ ⟨panel, ⟨0, 11⟩, panel.size⟩ :=
    ⟨by decide +kernel, "panel", by decide +kernel, by decide +kernel⟩
  have value : (Binary32.ofInt 13).value? = some ((13 : Int) : ℚ) :=
    Binary32.value?_ofInt (by decide)
  have twelve : (FontFace.lineHeight mono).toInt = 12 := by decide
  obtain ⟨-, same, -⟩ := imageOffset_eq_iff first second twelve twelve value value (by decide)
  refine ⟨_, _, _, _, first, second, by decide, by decide, value, rfl, rfl, rfl, rfl, ?_⟩
  rw [Ne, same]
  decide

end Typesetter
end StyledText
