import StyledText.Font.FixedPitch
import StyledText.Proofs.Failure
import StyledText.Proofs.Plane

/-!
# Layouts on the grid

A layout checks every sum before it uses it, but for the right and the bottom edge of its bounds.
Those are always in range, and no check refuses what is in range. So a layout does what the same
layout on the plane does, as long as that is on the grid, and fails where that leaves it.

Results:
1. `Draft.step_onPlane`: a command does to a draft what it does on the plane, if that is on the
   grid.
2. `Typesetter.typeset_refines`: the same for layouts.
-/

namespace StyledText

variable {F : Type}

/-- The fragment as a piece of the plane. -/
def Fragment.onPlane : Fragment F → Plane.Piece F
  | .text run =>
    ⟨.text run.font run.content run.color run.metrics, run.position.x.toInt, run.position.y.toInt⟩
  | .image i => ⟨.image i.image i.size, i.position.x.toInt, i.position.y.toInt⟩

/-- The draft on the plane. -/
def Draft.onPlane (draft : Draft F) : Plane F where
  pieces := draft.fragments.map Fragment.onPlane
  style := draft.state.style
  x := draft.state.cursor.x.toInt
  y := draft.state.cursor.y.toInt
  left := draft.state.bounds.x.toInt
  top := draft.state.bounds.y.toInt
  right := draft.state.bounds.rightEdge
  bottom := draft.state.bounds.bottomEdge

/-! ## Fragments -/

namespace Fragment

theorem x_onPlane (f : Fragment F) : f.onPlane.x = f.box.x.toInt := by cases f <;> rfl

theorem y_onPlane (f : Fragment F) : f.onPlane.y = f.box.y.toInt := by cases f <;> rfl

theorem width_onPlane (f : Fragment F) : f.onPlane.width = f.box.width.toInt := by
  cases f <;> rfl

theorem right_onPlane (f : Fragment F) : f.onPlane.right = f.box.rightEdge := by cases f <;> rfl

theorem bottom_onPlane (f : Fragment F) : f.onPlane.bottom = f.box.bottomEdge := by
  cases f <;> rfl

end Fragment

/-! ## Drawings -/

theorem imageY_onPlane (line lineHeight : Coordinate) (height : Binary32) :
    Plane.imageY line.toInt lineHeight height = (imageY line lineHeight height).toInt := by
  unfold Plane.imageY imageY Coordinate.toBinary32
  rfl

section Drawings

variable [FontFace F] {style : Style F} {place : Point}

-- With a name for the height: it unfolds far when two fragments are compared.
theorem Drawing.fragment_image (style : Style F) (place : Point) (shown : Image) :
    ∃ y, y = imageY place.y (FontFace.lineHeight style.font) shown.size.height ∧
      (image shown).fragment style place =
        .ok (.image ⟨shown, ⟨place.x, y⟩, shown.size⟩) :=
  ⟨_, rfl, rfl⟩

theorem Drawing.x_of_fragment {drawing : Drawing} {fragment : Fragment F}
    (shown : drawing.fragment style place = .ok fragment) : fragment.box.x = place.x := by
  cases drawing with
  | text content =>
    obtain ⟨metrics, -, rfl⟩ := fragment_text_eq_ok shown
    rfl
  | image image =>
    obtain ⟨y, -, shows⟩ := fragment_image style place image
    rw [shows] at shown
    cases shown
    rfl

/-- A drawing has the piece of its fragment, as long as the place is on the grid. -/
theorem Plane.piece_toInt (style : Style F) (place : Point) (drawing : Drawing) :
    Plane.piece style place.x.toInt place.y.toInt drawing =
      (drawing.fragment style place).map Fragment.onPlane := by
  cases drawing with
  | text content =>
    rw [Plane.piece, Drawing.fragment]
    cases FontFace.measure style.font content <;> rfl
  | image image =>
    obtain ⟨y, middle, shows⟩ := Drawing.fragment_image style place image
    rw [Plane.piece, imageY_onPlane, shows, ← middle]
    rfl

end Drawings

/-! ## Room -/

namespace Draft

theorem length_onPlane (draft : Draft F) :
    draft.onPlane.pieces.length = draft.fragments.length :=
  List.length_map ..

/-- What a draft has on the plane is on the grid, and its bounds are sound. -/
structure Gridded (draft : Draft F) : Prop where
  bounded : draft.Bounded
  onGrid : draft.onPlane.OnGrid

variable {draft next : Draft F} {fragment : Fragment F}

theorem onPlane_of_place (h : draft.Bounded) (placed : draft.place fragment = .ok next) :
    next.onPlane = draft.onPlane.place fragment.onPlane := by
  obtain ⟨fragments, extended, style, x, y⟩ := place_eq_ok placed
  obtain ⟨-, joins⟩ := (Bounds.extend?_eq_some_iff h.fits).1 extended
  unfold Plane.place
  rw [Fragment.x_onPlane, Fragment.y_onPlane, Fragment.width_onPlane, Fragment.right_onPlane,
    Fragment.bottom_onPlane]
  unfold onPlane
  rw [fragments, style, x, y, joins.left, joins.top, joins.right, joins.bottom, List.map_append]
  rfl

/-- A fragment at the cursor has room exactly if it is on the grid. -/
theorem hasRoom_iff_onGrid (h : draft.onPlane.OnGrid)
    (here : fragment.box.x = draft.state.cursor.x) :
    draft.state.HasRoom fragment.box ↔ (draft.onPlane.place fragment.onPlane).OnGrid := by
  have width : (draft.onPlane.place fragment.onPlane).right -
      (draft.onPlane.place fragment.onPlane).left =
        draft.state.bounds.joinedWidth fragment.box := by
    unfold Plane.place
    rw [Fragment.right_onPlane, Fragment.x_onPlane]
    rfl
  have height : (draft.onPlane.place fragment.onPlane).bottom -
      (draft.onPlane.place fragment.onPlane).top =
        draft.state.bounds.joinedHeight fragment.box := by
    unfold Plane.place
    rw [Fragment.bottom_onPlane, Fragment.y_onPlane]
    rfl
  constructor
  · intro room
    refine ⟨h.line, ?_, width ▸ room.width, height ▸ room.height⟩
    intro piece inside
    rcases List.mem_append.1 inside with earlier | last
    · exact h.pieces piece earlier
    · rw [List.mem_singleton.1 last, Fragment.right_onPlane, Fragment.bottom_onPlane]
      exact ⟨room.fits.right, room.fits.bottom⟩
  · intro grid
    obtain ⟨right, bottom⟩ := grid.pieces fragment.onPlane List.mem_concat_self
    rw [Fragment.right_onPlane] at right
    rw [Fragment.bottom_onPlane] at bottom
    refine ⟨⟨right, bottom⟩, width ▸ grid.width, height ▸ grid.height, ?_⟩
    rw [← here]
    exact right

theorem place_onPlane (h : draft.Gridded) (here : fragment.box.x = draft.state.cursor.x) :
    (draft.place fragment).map onPlane =
      (draft.onPlane.place fragment.onPlane).guard draft.fragments.length := by
  have room := hasRoom_iff_onGrid h.onGrid here
  unfold Plane.guard
  cases placed : draft.place fragment with
  | error e =>
    obtain ⟨outside, rfl⟩ := (place_eq_error_iff h.bounded.fits).1 placed
    rw [if_neg (room.not.1 outside)]
    rfl
  | ok next =>
    have inside : draft.state.HasRoom fragment.box := by
      by_contra outside
      cases placed.symm.trans ((place_eq_error_iff h.bounded.fits).2 ⟨outside, rfl⟩)
    rw [if_pos (room.1 inside), ← onPlane_of_place h.bounded placed]
    rfl

variable [FontFace F]

/-! ## Commands -/

theorem draw_onPlane (h : draft.Gridded) (maxFragments : Nat) (drawing : Drawing) :
    (draft.draw maxFragments drawing).map onPlane =
      (draft.onPlane.draw maxFragments drawing).bind (Plane.guard draft.fragments.length) := by
  have piece : Plane.piece draft.onPlane.style draft.onPlane.x draft.onPlane.y drawing = _ :=
    Plane.piece_toInt draft.state.style draft.state.cursor drawing
  rw [draw_eq, Plane.draw, length_onPlane, piece]
  split
  · cases shown : drawing.fragment draft.state.style draft.state.cursor with
    | error cause => rfl
    | ok fragment => exact place_onPlane h (Drawing.x_of_fragment shown)
  · rfl

theorem newline_onPlane (h : draft.Gridded) :
    draft.newline.map onPlane = draft.onPlane.newline.guard draft.fragments.length := by
  have line : draft.onPlane.newline.OnGrid ↔ Coordinate.InRange
      (draft.state.cursor.y.toInt + (FontFace.lineHeight draft.state.font).toInt) :=
    ⟨fun grid => grid.line, fun line => ⟨line, h.onGrid.pieces, h.onGrid.width, h.onGrid.height⟩⟩
  unfold Plane.guard
  cases done : draft.newline with
  | error e =>
    obtain ⟨outside, rfl⟩ := newline_eq_error_iff.1 done
    rw [if_neg (line.not.2 outside)]
    rfl
  | ok next =>
    obtain ⟨fragments, bounds, style, x, y⟩ := newline_eq_ok done
    rw [if_pos (line.2 (Coordinate.inRange_of_toInt_eq y))]
    unfold Plane.newline onPlane
    rw [Except.map, fragments, bounds, style, x, y]
    rfl

/-- A command does to a draft what it does on the plane, if that is on the grid. -/
theorem step_onPlane (h : draft.Gridded) (resources : Resources F) (maxFragments : Nat)
    (command : Command) :
    (draft.step resources maxFragments command).map onPlane =
      draft.onPlane.guardedStep resources maxFragments command := by
  rw [Plane.guardedStep, length_onPlane]
  rcases draft.step_cases resources maxFragments command with
    ⟨drawing, drawn, does⟩ | ⟨rfl, does⟩ | ⟨silent, along, does⟩
  · rw [does, Plane.step_of_drawing drawn]
    exact draw_onPlane h maxFragments drawing
  · rw [does, Plane.step_newline]
    exact newline_onPlane h
  · rw [does, Plane.step_of_silent silent along]
    exact (if_pos (h.onGrid.restyle _)).symm

theorem gridded_of_step {resources : Resources F} {maxFragments : Nat} {command : Command}
    (h : draft.Gridded) (stepped : draft.step resources maxFragments command = .ok next) :
    next.Gridded := by
  have onPlane := step_onPlane h resources maxFragments command
  rw [stepped] at onPlane
  exact ⟨bounded_of_step h.bounded stepped, (Plane.guardedStep_eq_ok_iff.1 onPlane.symm).2⟩

/-! ## Runs -/

theorem run_onPlane (h : draft.Gridded) (resources : Resources F) (maxFragments : Nat)
    (list : CommandList) :
    (draft.run resources maxFragments list).map onPlane =
      list.foldlM (Plane.guardedStep resources maxFragments) draft.onPlane := by
  induction list generalizing draft with
  | nil => rfl
  | cons command rest ih =>
    have onPlane := step_onPlane h resources maxFragments command
    rw [run, List.foldlM_cons, List.foldlM_cons, ← onPlane]
    cases stepped : draft.step resources maxFragments command with
    | error e => rfl
    | ok next => exact ih (gridded_of_step h stepped)

/-- A list has the draft that it has on the plane, if that is on the grid behind every command. -/
theorem ofList_onPlane (config : Typesetter.Config) (resources : Resources F)
    (list : CommandList) :
    (ofList config resources list).map onPlane = Plane.guarded config resources list := by
  unfold ofList Plane.guarded Plane.along
  cases started : start config resources with
  | error e => rfl
  | ok draft =>
    obtain ⟨fontName, font, -, -, same⟩ := start_eq_ok_iff.1 started
    have origin : draft.onPlane = .empty draft.state.style := by
      rw [same]
      rfl
    have gridded : draft.Gridded :=
      ⟨bounded_of_start started, origin ▸ Plane.onGrid_empty draft.state.style⟩
    have ran := run_onPlane gridded resources config.maxFragments list
    rw [origin] at ran
    exact ran

end Draft

/-! ## Layouts -/

namespace Typesetter

/-- A typesetter shows a layout of the plane: its pieces, and at their end its style, its cursor and
the edges of its box. -/
structure ShowsPlane (t : Typesetter F) (bounds : Bounds) (plane : Plane F) : Prop where
  pieces : t.fragments.map Fragment.onPlane = plane.pieces
  state : ∃ state, t.state = some state ∧ state.bounds = bounds ∧ state.style = plane.style ∧
    state.cursor.x.toInt = plane.x ∧ state.cursor.y.toInt = plane.y
  left : bounds.x.toInt = plane.left
  top : bounds.y.toInt = plane.top
  right : bounds.right.toInt = plane.right
  bottom : bounds.bottom.toInt = plane.bottom
  width : bounds.width.toInt = plane.right - plane.left
  height : bounds.height.toInt = plane.bottom - plane.top

variable [FontFace F] {t next : Typesetter F} {resources after : Resources F} {list : CommandList}
  {bounds : Bounds}

theorem showsPlane_of_typeset (done : t.typeset resources list = (.ok bounds, next, after)) :
    ∃ plane, Plane.ofList t.config resources list = .ok plane ∧ next.ShowsPlane bounds plane := by
  obtain ⟨draft, made, rfl, shown⟩ := draft_of_typeset done
  have onPlane := Draft.ofList_onPlane t.config resources list
  rw [made] at onPlane
  obtain ⟨-, made'⟩ := Plane.guarded_eq_ok_iff.1 onPlane.symm
  have fits := (Draft.bounded_of_ofList made).fits
  refine ⟨draft.onPlane, made', ?_⟩
  exact {
    pieces := congrArg (List.map Fragment.onPlane) shown.fragments
    state := ⟨draft.state, shown.state, rfl, rfl, rfl, rfl⟩
    left := rfl
    top := rfl
    right := Bounds.toInt_right fits
    bottom := Bounds.toInt_bottom fits
    width := (add_sub_cancel_left ..).symm
    height := (add_sub_cancel_left ..).symm }

/-- A layout succeeds exactly if its list stays on the grid of the plane, and then it shows what is
on the plane. It fails for want of room exactly if the list leaves the grid, and behind as many
fragments. Every other failure is one on the plane as well. Wherever a layout comes, the right and
the bottom edge of its bounds are sums that do not wrap around. -/
theorem typeset_refines (t : Typesetter F) (resources : Resources F) (list : CommandList) :
    ((∃ bounds, (t.typeset resources list).1 = .ok bounds) ↔
      Plane.StaysOnGrid t.config resources list) ∧
    (∀ placed, (t.typeset resources list).1 = .error (.coordinateOverflow placed) ↔
      Plane.LeavesGrid t.config resources list placed) ∧
    (∀ e, (∀ placed, e ≠ .coordinateOverflow placed) →
      ((t.typeset resources list).1 = .error e ↔
        Plane.FailsOnGrid t.config resources list e)) ∧
    (∀ bounds next after, t.typeset resources list = (.ok bounds, next, after) →
      ∃ plane, Plane.ofList t.config resources list = .ok plane ∧
        next.ShowsPlane bounds plane) ∧
    ∀ first front pass, t.start resources = .ok first →
      first.run t.config.maxFragments front = (pass, none) →
      pass.state.bounds.right.toInt =
        pass.state.bounds.x.toInt + pass.state.bounds.width.toInt ∧
      pass.state.bounds.bottom.toInt =
        pass.state.bounds.y.toInt + pass.state.bounds.height.toInt := by
  have onPlane := Draft.ofList_onPlane t.config resources list
  have fails {e : LayoutError} : (t.typeset resources list).1 = .error e ↔
      Plane.guarded t.config resources list = .error e := by
    rw [outcome_eq_error_iff, ← onPlane]
    cases Draft.ofList t.config resources list <;> simp [Except.map]
  have succeeds : (∃ bounds, (t.typeset resources list).1 = .ok bounds) ↔
      ∃ plane, Plane.guarded t.config resources list = .ok plane := by
    rw [outcome_eq, ← onPlane]
    cases Draft.ofList t.config resources list <;> simp [Except.map]
  refine ⟨?_, ?_, ?_, ?_, ?_⟩
  · rw [succeeds]
    constructor
    · rintro ⟨plane, made⟩
      exact (Plane.guarded_eq_ok_iff.1 made).1
    · intro stays
      obtain ⟨plane, made, -⟩ := stays list (List.prefix_refl list)
      exact ⟨plane, Plane.guarded_eq_ok_iff.2 ⟨stays, made⟩⟩
  · intro placed
    exact fails.trans Plane.guarded_eq_overflow_iff
  · intro e other
    exact fails.trans (Plane.guarded_eq_error_iff other)
  · intro bounds next after done
    exact showsPlane_of_typeset done
  · intro first front pass started ran
    have fits := (reaches_of_run started ran).bounded.fits
    exact ⟨Bounds.toInt_right fits, Bounds.toInt_bottom fits⟩

/-- An image of half the width of the grid. -/
def walls : Resources FixedPitch :=
  Resources.registered default
    [.font { family := some "Mono", pointSize := 12 } none,
      .image "wall" { size := ⟨.ofInt 0x40000000, .ofInt 1⟩ }]

/-- The right edge of the second one is one too far. -/
example : ((new default).typeset walls [.drawImage "wall", .newline, .drawImage "wall",
    .drawImage "wall"]).1 = .error (.coordinateOverflow 2) := by decide +kernel

end Typesetter
end StyledText
