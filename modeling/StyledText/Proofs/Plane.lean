import Mathlib
import StyledText.Proofs.Commands

/-!
# Layouts on the plane

A layout computes with coordinates, and fails where one would be out of range. On a plane of all
integers there is nothing to check: this is the same layout, with the cursor and the edges of the
box as integers. It fails only for want of a slot, a font or a measure.

The grid is the part of the plane that coordinates reach. A layout on the plane leaves it at the
first command behind which something is out of range: the line, the right or the bottom edge of a
piece, or an extent of the box around all.

Results:
1. `Plane.guarded_eq_ok_iff`: a run that looks where it is behind every command succeeds exactly if
   the run on the plane never leaves the grid, and comes to the same.
2. `Plane.guarded_eq_overflow_iff`, `Plane.guarded_eq_error_iff`: where it stops, and why.
-/

namespace StyledText

/-- What a piece of a layout shows, wherever it is. -/
inductive Plane.Shown (F : Type) where
  | text (font : F) (content : String) (color : Color) (metrics : TextMetrics)
  | image (image : Image) (size : Size)

/-- A piece of a layout on the plane, by its left top corner. -/
structure Plane.Piece (F : Type) where
  shown : Plane.Shown F
  x : Int
  y : Int

/-- A layout on the plane: its pieces in order, the style, the cursor, and the edges of the box
around the origin and all pieces. -/
structure Plane (F : Type) where
  pieces : List (Plane.Piece F)
  style : Style F
  x : Int
  y : Int
  left : Int
  top : Int
  right : Int
  bottom : Int

/-- The height at which an image stands on a line of the plane, by the formula of the grid. -/
def Plane.imageY (lineY : Int) (lineHeight : Coordinate) (height : Binary32) : Int :=
  (Binary32.ofInt lineY + Coordinate.toBinary32 (lineHeight / 2) -
    height / Binary32.ofInt 2).truncate.toInt

namespace Plane

variable {F : Type}

namespace Piece

/-- The width. Of an image it has the whole part. -/
def width (piece : Piece F) : Int :=
  match piece.shown with
  | .text _ _ _ metrics => metrics.width.toInt
  | .image _ size => size.width.truncate.toInt

/-- The height. Of an image it has the whole part. -/
def height (piece : Piece F) : Int :=
  match piece.shown with
  | .text _ _ _ metrics => metrics.height.toInt
  | .image _ size => size.height.truncate.toInt

def right (piece : Piece F) : Int := piece.x + piece.width

def bottom (piece : Piece F) : Int := piece.y + piece.height

end Piece

/-- The layout of nothing, at the origin. -/
def empty (style : Style F) : Plane F :=
  { pieces := [], style, x := 0, y := 0, left := 0, top := 0, right := 0, bottom := 0 }

/-- The layout with one more piece, and the cursor behind it. -/
def place (plane : Plane F) (piece : Piece F) : Plane F :=
  { plane with
    pieces := plane.pieces ++ [piece]
    x := plane.x + piece.width
    left := min plane.left piece.x
    top := min plane.top piece.y
    right := max plane.right piece.right
    bottom := max plane.bottom piece.bottom }

section Runs

variable [FontFace F]

/-- The piece that shows a drawing in a style at a place, if the text can be measured. -/
def piece (style : Style F) (x y : Int) : Drawing → Except FontError (Piece F)
  | .text content =>
    (FontFace.measure style.font content).map fun metrics =>
      ⟨.text style.font content style.color metrics, x, y⟩
  | .image image =>
    .ok ⟨.image image image.size, x,
      Plane.imageY y (FontFace.lineHeight style.font) image.size.height⟩

/-- The layout with a drawing at the cursor. -/
def draw (maxFragments : Nat) (plane : Plane F) (drawing : Drawing) :
    Except LayoutError (Plane F) :=
  if plane.pieces.length < maxFragments then
    match Plane.piece plane.style plane.x plane.y drawing with
    | .ok piece => .ok (plane.place piece)
    | .error cause => .error (.font cause)
  else .error (.fragmentPoolExhausted maxFragments)

/-- The layout at the beginning of the next line. -/
def newline (plane : Plane F) : Plane F :=
  { plane with x := 0, y := plane.y + (FontFace.lineHeight plane.style.font).toInt }

/-- The layout after one more command. -/
def step (resources : Resources F) (maxFragments : Nat) (plane : Plane F) (command : Command) :
    Except LayoutError (Plane F) :=
  match resources.drawing? command, command with
  | some drawing, _ => plane.draw maxFragments drawing
  | none, .newline => .ok plane.newline
  | none, _ => .ok { plane with style := plane.style.next resources command }

/-- The layout of a list of commands, by steps of some kind. -/
def along (config : Typesetter.Config) (resources : Resources F)
    (step : Plane F → Command → Except LayoutError (Plane F)) (list : CommandList) :
    Except LayoutError (Plane F) :=
  (Draft.start config resources).bind fun draft => list.foldlM step (empty draft.state.style)

/-- The layout of a list of commands. -/
def ofList (config : Typesetter.Config) (resources : Resources F) (list : CommandList) :
    Except LayoutError (Plane F) :=
  along config resources (step resources config.maxFragments) list

end Runs

/-! ## The grid -/

/-- All that a layout computes is in range. -/
structure OnGrid (plane : Plane F) : Prop where
  line : Coordinate.InRange plane.y
  pieces : ∀ piece ∈ plane.pieces,
    Coordinate.InRange piece.right ∧ Coordinate.InRange piece.bottom
  width : Coordinate.InRange (plane.right - plane.left)
  height : Coordinate.InRange (plane.bottom - plane.top)

instance (plane : Plane F) : Decidable plane.OnGrid :=
  decidable_of_iff
    (Coordinate.InRange plane.y ∧
      (∀ piece ∈ plane.pieces,
        Coordinate.InRange piece.right ∧ Coordinate.InRange piece.bottom) ∧
      Coordinate.InRange (plane.right - plane.left) ∧
      Coordinate.InRange (plane.bottom - plane.top))
    ⟨fun ⟨line, pieces, width, height⟩ => ⟨line, pieces, width, height⟩,
      fun ⟨line, pieces, width, height⟩ => ⟨line, pieces, width, height⟩⟩

theorem onGrid_empty (style : Style F) : (empty style).OnGrid :=
  have origin : Coordinate.InRange 0 := by decide
  ⟨origin, fun _ inside => absurd inside List.not_mem_nil, origin, origin⟩

theorem OnGrid.restyle {plane : Plane F} (h : plane.OnGrid) (style : Style F) :
    { plane with style }.OnGrid :=
  ⟨h.line, h.pieces, h.width, h.height⟩

variable [FontFace F]

/-- A list of commands has a layout on the plane, and that is on the grid behind every command. -/
def StaysOnGrid (config : Typesetter.Config) (resources : Resources F) (list : CommandList) :
    Prop :=
  ∀ front, front <+: list → ∃ plane, ofList config resources front = .ok plane ∧ plane.OnGrid

/-- The layout of a list on the plane leaves the grid, at a command behind so many pieces. -/
def LeavesGrid (config : Typesetter.Config) (resources : Resources F) (list : CommandList)
    (placed : Nat) : Prop :=
  ∃ front command back before after, list = front ++ command :: back ∧
    StaysOnGrid config resources front ∧ ofList config resources front = .ok before ∧
    before.pieces.length = placed ∧
    ofList config resources (front ++ [command]) = .ok after ∧ ¬after.OnGrid

/-- There is no layout on the plane, before the list or at one of its commands, and what there is is
on the grid. -/
def FailsOnGrid (config : Typesetter.Config) (resources : Resources F) (list : CommandList)
    (e : LayoutError) : Prop :=
  ofList config resources [] = .error e ∨
    ∃ front command back, list = front ++ command :: back ∧
      StaysOnGrid config resources front ∧
      ofList config resources (front ++ [command]) = .error e

/-! ## One more command -/

section Concat

variable {config : Typesetter.Config} {resources : Resources F} {front : CommandList}
  {command : Command} {plane : Plane F} {e : LayoutError}

theorem along_concat (step : Plane F → Command → Except LayoutError (Plane F)) :
    along config resources step (front ++ [command]) =
      (along config resources step front).bind (step · command) := by
  unfold along
  cases Draft.start config resources with
  | error e => rfl
  | ok draft =>
    simp only [Except.bind, List.foldlM_append, List.foldlM_cons, List.foldlM_nil, bind_pure]
    rfl

theorem ofList_concat (made : ofList config resources front = .ok plane) :
    ofList config resources (front ++ [command]) =
      plane.step resources config.maxFragments command := by
  unfold ofList at made ⊢
  rw [along_concat, made]
  rfl

/-- The plane has no part in the error that there is before any command. -/
theorem ofList_nil_ne_overflow (refused : ofList config resources [] = .error e) (placed : Nat) :
    e ≠ .coordinateOverflow placed := by
  unfold ofList along at refused
  cases started : Draft.start config resources with
  | error cause =>
    rw [started] at refused
    cases refused
    rcases Draft.start_eq_error started with rfl | ⟨cause, rfl⟩
    · exact nofun
    · exact nofun
  | ok draft =>
    rw [started] at refused
    cases refused

theorem staysOnGrid_concat :
    StaysOnGrid config resources (front ++ [command]) ↔
      StaysOnGrid config resources front ∧
        ∃ plane, ofList config resources (front ++ [command]) = .ok plane ∧ plane.OnGrid := by
  unfold StaysOnGrid
  simp only [List.prefix_concat_iff]
  constructor
  · intro stays
    exact ⟨fun earlier behind => stays earlier (.inr behind), stays _ (.inl rfl)⟩
  · rintro ⟨stays, last⟩ earlier (rfl | behind)
    · exact last
    · exact stays earlier behind

end Concat

section Step

variable {resources : Resources F} {maxFragments : Nat} {plane : Plane F} {command : Command}

theorem step_of_drawing {drawing : Drawing} (drawn : resources.drawing? command = some drawing) :
    plane.step resources maxFragments command = plane.draw maxFragments drawing := by
  unfold step
  rw [drawn]

theorem step_newline : plane.step resources maxFragments .newline = .ok plane.newline := rfl

theorem step_of_silent (silent : resources.drawing? command = none)
    (along : command ≠ .newline) :
    plane.step resources maxFragments command =
      .ok { plane with style := plane.style.next resources command } := by
  unfold step
  rw [silent]
  split
  · next drawn => cases drawn
  · exact absurd rfl along
  · rfl

/-- Nothing is out of range on the plane. -/
theorem step_ne_overflow {e : LayoutError}
    (failed : plane.step resources maxFragments command = .error e) (placed : Nat) :
    e ≠ .coordinateOverflow placed := by
  unfold step at failed
  split at failed
  · unfold draw at failed
    split at failed
    · split at failed
      · cases failed
      · cases failed
        exact nofun
    · cases failed
      exact nofun
  · cases failed
  · cases failed

end Step

/-! ## Guarded runs -/

/-- The layout if it is on the grid, and else the error behind so many pieces. -/
def guard (placed : Nat) (plane : Plane F) : Except LayoutError (Plane F) :=
  if plane.OnGrid then .ok plane else .error (.coordinateOverflow placed)

/-- The layout after one more command, if it is on the grid. -/
def guardedStep (resources : Resources F) (maxFragments : Nat) (plane : Plane F)
    (command : Command) : Except LayoutError (Plane F) :=
  (plane.step resources maxFragments command).bind (guard plane.pieces.length)

/-- The layout of a list of commands, if it is on the grid behind all of them. -/
def guarded (config : Typesetter.Config) (resources : Resources F) (list : CommandList) :
    Except LayoutError (Plane F) :=
  along config resources (guardedStep resources config.maxFragments) list

section Guarded

variable {config : Typesetter.Config} {resources : Resources F} {list : CommandList}
  {plane next : Plane F} {e : LayoutError} {placed : Nat} {maxFragments : Nat} {command : Command}

theorem guardedStep_eq_ok_iff :
    plane.guardedStep resources maxFragments command = .ok next ↔
      plane.step resources maxFragments command = .ok next ∧ next.OnGrid := by
  unfold guardedStep guard
  cases plane.step resources maxFragments command with
  | error e => simp [Except.bind]
  | ok after =>
    rw [Except.bind]
    split
    · next inside =>
      constructor
      · intro same
        cases same
        exact ⟨rfl, inside⟩
      · rintro ⟨same, -⟩
        exact same
    · next outside =>
      constructor
      · intro failed
        cases failed
      · rintro ⟨same, inside⟩
        cases same
        exact absurd inside outside

theorem guardedStep_eq_error_iff :
    plane.guardedStep resources maxFragments command = .error e ↔
      plane.step resources maxFragments command = .error e ∨
        ∃ after, plane.step resources maxFragments command = .ok after ∧ ¬after.OnGrid ∧
          e = .coordinateOverflow plane.pieces.length := by
  unfold guardedStep guard
  cases plane.step resources maxFragments command with
  | error cause => simp [Except.bind]
  | ok after =>
    rw [Except.bind]
    split
    · next inside => simp [inside]
    · next outside => simp [outside, eq_comm]

/-- A guarded run succeeds exactly if the run on the plane never leaves the grid, and comes to the
same. -/
theorem guarded_eq_ok_iff :
    guarded config resources list = .ok plane ↔
      StaysOnGrid config resources list ∧ ofList config resources list = .ok plane := by
  -- On the last command: to stay on the grid is said of the fronts of a list.
  induction list using List.reverseRecOn generalizing plane with
  | nil =>
    constructor
    · intro made
      obtain ⟨draft, started, same⟩ := bind_eq_ok_iff.1 made
      cases same
      refine ⟨?_, made⟩
      intro front behind
      rw [List.prefix_nil.1 behind]
      exact ⟨_, made, onGrid_empty _⟩
    · rintro ⟨-, made⟩
      exact made
  | append_singleton front command ih =>
    rw [staysOnGrid_concat, guarded, ofList, along_concat, along_concat]
    simp only [bind_eq_ok_iff, guardedStep_eq_ok_iff]
    constructor
    · rintro ⟨before, made, stepped, inside⟩
      obtain ⟨stays, made⟩ := ih.1 made
      exact ⟨⟨stays, plane, ⟨before, made, stepped⟩, inside⟩, before, made, stepped⟩
    · rintro ⟨⟨stays, after, ⟨earlier, made', stepped'⟩, inside⟩, before, made, stepped⟩
      cases made.symm.trans made'
      cases stepped.symm.trans stepped'
      exact ⟨_, ih.2 ⟨stays, made⟩, stepped, inside⟩

/-- A guarded run that fails does so before its list, or at a command behind others that keep the
run on the plane on the grid. -/
theorem guarded_eq_error_iff_at :
    guarded config resources list = .error e ↔
      ofList config resources [] = .error e ∨
        ∃ front command back before, list = front ++ command :: back ∧
          StaysOnGrid config resources front ∧ ofList config resources front = .ok before ∧
          before.guardedStep resources config.maxFragments command = .error e := by
  have split : guarded config resources list = .error e ↔
      ofList config resources [] = .error e ∨
        ∃ front command back before, list = front ++ command :: back ∧
          guarded config resources front = .ok before ∧
          before.guardedStep resources config.maxFragments command = .error e := by
    unfold guarded ofList along
    cases Draft.start config resources with
    | error cause => simp [Except.bind]
    | ok draft =>
      simp only [Except.bind, foldlM_eq_error_iff]
      simp
  simp only [split, guarded_eq_ok_iff, and_assoc]

/-- A guarded run fails for want of room exactly if the run on the plane leaves the grid, and behind
as many pieces. -/
theorem guarded_eq_overflow_iff :
    guarded config resources list = .error (.coordinateOverflow placed) ↔
      LeavesGrid config resources list placed := by
  rw [guarded_eq_error_iff_at]
  constructor
  · rintro (refused | ⟨front, command, back, before, rfl, stays, made, failed⟩)
    · exact absurd rfl (ofList_nil_ne_overflow refused placed)
    · rcases guardedStep_eq_error_iff.1 failed with failed | ⟨after, stepped, outside, same⟩
      · exact absurd rfl (step_ne_overflow failed placed)
      · cases same
        exact ⟨front, command, back, before, after, rfl, stays, made, rfl,
          (ofList_concat made).trans stepped, outside⟩
  · rintro ⟨front, command, back, before, after, rfl, stays, made, rfl, stepped, outside⟩
    rw [ofList_concat made] at stepped
    refine .inr ⟨front, command, back, before, rfl, stays, made, ?_⟩
    exact guardedStep_eq_error_iff.2 (.inr ⟨after, stepped, outside, rfl⟩)

/-- A guarded run fails with any other error exactly if the run on the plane does, on the grid. -/
theorem guarded_eq_error_iff (other : ∀ placed, e ≠ .coordinateOverflow placed) :
    guarded config resources list = .error e ↔ FailsOnGrid config resources list e := by
  rw [guarded_eq_error_iff_at]
  constructor
  · rintro (refused | ⟨front, command, back, before, rfl, stays, made, failed⟩)
    · exact .inl refused
    · rcases guardedStep_eq_error_iff.1 failed with failed | ⟨after, stepped, outside, same⟩
      · exact .inr ⟨front, command, back, rfl, stays, (ofList_concat made).trans failed⟩
      · exact absurd same (other _)
  · rintro (refused | ⟨front, command, back, rfl, stays, failed⟩)
    · exact .inl refused
    · obtain ⟨before, made, -⟩ := stays front (List.prefix_refl front)
      rw [ofList_concat made] at failed
      refine .inr ⟨front, command, back, before, rfl, stays, made, ?_⟩
      exact guardedStep_eq_error_iff.2 (.inl failed)

end Guarded

end Plane
end StyledText
