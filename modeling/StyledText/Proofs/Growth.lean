import StyledText.Proofs.Joining

/-!
# How boxes grow

A box is extended to the least box of the grid around it and another one, and if there is no box
around both, to none. A layout begins with the empty box at the origin. Whatever that is extended
by, also boxes of negative extents, the origin stays inside, no edge leaves the grid and none moves
inwards.

Results:
1. `Bounds.extend?_eq_some_iff_least`: what extending a proper box gives, said by the boxes that are
   around it.
2. `Bounds.Anchored.extend?`: one step keeps the origin inside.
3. `Bounds.anchored_of_extendAll?`: so do all steps, and no edge moves inwards.
-/

namespace StyledText
namespace Bounds

/-! ## Least boxes -/

/-- The extents are not negative, and the edges are coordinates. -/
structure Proper (b : Bounds) : Prop where
  width : 0 ≤ b.width.toInt
  height : 0 ≤ b.height.toInt
  fits : b.Fits

/-- A proper box is around two others. -/
structure Around (b other d : Bounds) : Prop where
  proper : d.Proper
  first : d.Encloses b
  second : d.Encloses other

/-- A proper box is around two others, and every such box is around it. -/
structure Least (b other c : Bounds) : Prop where
  around : b.Around other c
  least : ∀ d, b.Around other d → d.Encloses c

theorem Encloses.antisymm {b c : Bounds} (h : b.Encloses c) (h' : c.Encloses b) : b = c :=
  eq_of_edges (le_antisymm h.left h'.left) (le_antisymm h.top h'.top)
    (le_antisymm h'.right h.right) (le_antisymm h'.bottom h.bottom)

theorem Joins.encloses_other {b other c : Bounds} (joins : b.Joins other c) : c.Encloses other where
  left := joins.left ▸ min_le_right ..
  top := joins.top ▸ min_le_right ..
  right := joins.right ▸ le_max_right ..
  bottom := joins.bottom ▸ le_max_right ..

/-- Whatever is around two boxes is around the box that joins them. -/
theorem Joins.least {b other c d : Bounds} (joins : b.Joins other c) (h : d.Encloses b)
    (h' : d.Encloses other) : d.Encloses c where
  left := joins.left ▸ le_min h.left h'.left
  top := joins.top ▸ le_min h.top h'.top
  right := joins.right ▸ max_le h.right h'.right
  bottom := joins.bottom ▸ max_le h.bottom h'.bottom

/-- A box around a proper one is proper if its edges are coordinates. -/
theorem Proper.of_encloses {b c : Bounds} (h : b.Proper) (around : c.Encloses b) (fits : c.Fits) :
    c.Proper := by
  obtain ⟨left, top, right, bottom⟩ := around
  obtain ⟨width, height, -⟩ := h
  simp only [rightEdge, bottomEdge] at right bottom
  refine ⟨?_, ?_, fits⟩
  · omega
  · omega

/-- The edges of a box within a proper one are coordinates, unless it has a negative extent. -/
theorem Proper.fits_of_encloses {other d : Bounds} (h : d.Proper) (around : d.Encloses other)
    (width : 0 ≤ other.width.toInt) (height : 0 ≤ other.height.toInt) : other.Fits := by
  have x := Coordinate.toInt_inRange other.x
  have y := Coordinate.toInt_inRange other.y
  constructor
  · exact ⟨x.1.trans (le_add_of_nonneg_right width), around.right.trans_lt h.fits.right.2⟩
  · exact ⟨y.1.trans (le_add_of_nonneg_right height), around.bottom.trans_lt h.fits.bottom.2⟩

theorem Least.unique {b other c d : Bounds} (h : b.Least other c) (h' : b.Least other d) : c = d :=
  (h'.least c h.around).antisymm (h.least d h'.around)

/-- What extending a proper box gives is the least box around it and the other one. -/
theorem least_of_extend? {b other c : Bounds} (h : b.Proper) (extended : b.extend? other = some c) :
    b.Least other c := by
  obtain ⟨fits, joins⟩ := (extend?_eq_some_iff h.fits).1 extended
  have proper := h.of_encloses joins.encloses (joins.fits h.fits fits)
  exact ⟨⟨proper, joins.encloses, joins.encloses_other⟩, fun d around =>
    joins.least around.first around.second⟩

/-- Extending a box gives something if a proper box is around it and the other one. -/
theorem exists_extend?_of_around {b other d : Bounds} (h : b.Proper) (around : b.Around other d)
    (width : 0 ≤ other.width.toInt) (height : 0 ≤ other.height.toInt) :
    ∃ c, b.extend? other = some c := by
  obtain ⟨c, joins⟩ := exists_joins_of_encloses around.first around.second
  have fits := around.proper.fits_of_encloses around.second width height
  exact ⟨c, (extend?_eq_some_iff h.fits).2 ⟨fits, joins⟩⟩

/-- A proper box is extended by a box without negative extents to the least proper box around both,
and to none exactly if no proper box is around both. It stays as it is exactly if the other box is
within it. -/
theorem extend?_eq_some_iff_least {b other : Bounds} (proper : b.Proper)
    (width : 0 ≤ other.width.toInt) (height : 0 ≤ other.height.toInt) :
    (∀ c, b.extend? other = some c ↔ b.Least other c) ∧
      (b.extend? other = none ↔ ¬∃ d, b.Around other d) ∧
      (b.extend? other = some b ↔ b.Encloses other) := by
  have finds : ∀ c, b.extend? other = some c ↔ b.Least other c := by
    intro c
    refine ⟨least_of_extend? proper, fun least => ?_⟩
    obtain ⟨c', extended⟩ := exists_extend?_of_around proper least.around width height
    rw [extended, (least_of_extend? proper extended).unique least]
  refine ⟨finds, ?_, ?_⟩
  · rw [Option.eq_none_iff_forall_ne_some]
    constructor
    · rintro none ⟨d, around⟩
      obtain ⟨c, extended⟩ := exists_extend?_of_around proper around width height
      exact none c extended
    · intro nothing c extended
      exact nothing ⟨c, ((finds c).1 extended).around⟩
  · rw [finds]
    constructor
    · intro least
      exact least.around.second
    · intro within
      exact ⟨⟨proper, .refl b, within⟩, fun d around => around.first⟩

/-- Near the end of the grid: a box that still has room, one whose right edge is beyond it, and one
that is too far to the left for the extent of the result. -/
theorem extend?_eq_some_iff_least_far :
    let b : Bounds := ⟨-1, 0, 11, 10⟩
    let last : Bounds := ⟨2147483636, 3, 10, 1⟩
    let beyond : Bounds := ⟨2147483647, 0, 1, 1⟩
    let before : Bounds := ⟨-2147483648, 0, 1, 1⟩
    let inner : Bounds := ⟨10, 10, 0, 0⟩
    b.Proper ∧ b.Least last ⟨-1, 0, 2147483647, 10⟩ ∧ (¬∃ d, b.Around beyond d) ∧
      (¬∃ d, b.Around before d) ∧ b.Encloses inner := by
  intro b last beyond before inner
  have proper : b.Proper := ⟨by decide, by decide, by decide, by decide⟩
  have joined : b.Least last ⟨-1, 0, 2147483647, 10⟩ :=
    ((extend?_eq_some_iff_least proper (by decide) (by decide)).1 _).1 (by decide)
  have noRoom : ¬∃ d, b.Around beyond d :=
    (extend?_eq_some_iff_least proper (by decide) (by decide)).2.1.1 (by decide)
  have tooWide : ¬∃ d, b.Around before d :=
    (extend?_eq_some_iff_least proper (by decide) (by decide)).2.1.1 (by decide)
  have within : b.Encloses inner :=
    (extend?_eq_some_iff_least proper (by decide) (by decide)).2.2.1 (by decide)
  exact ⟨proper, joined, noRoom, tooWide, within⟩

/-! ## The origin -/

/-- The origin is in the box, or on its edge, and the edges are coordinates. -/
structure Anchored (b : Bounds) : Prop where
  left : b.x.toInt ≤ 0
  top : b.y.toInt ≤ 0
  right : 0 ≤ b.rightEdge
  bottom : 0 ≤ b.bottomEdge
  fits : b.Fits

theorem anchored_empty : empty.Anchored :=
  ⟨le_rfl, le_rfl, le_rfl, le_rfl, fits_empty⟩

/-- Around an anchored box, a box with edges on the grid is anchored. -/
theorem Anchored.of_encloses {b c : Bounds} (h : b.Anchored) (around : c.Encloses b)
    (fits : c.Fits) : c.Anchored :=
  ⟨around.left.trans h.left, around.top.trans h.top, h.right.trans around.right,
    h.bottom.trans around.bottom, fits⟩

/-- The extents of an anchored box are not negative: the origin is between its edges. -/
theorem Anchored.proper {b : Bounds} (h : b.Anchored) : b.Proper := by
  obtain ⟨left, top, right, bottom, fits⟩ := h
  simp only [rightEdge, bottomEdge] at right bottom
  refine ⟨?_, ?_, fits⟩
  · omega
  · omega

/-- One step from an anchored box leads to an anchored one around it. -/
theorem Anchored.extend? {b other c : Bounds} (h : b.Anchored)
    (extended : b.extend? other = some c) : c.Anchored ∧ c.Encloses b := by
  obtain ⟨fits, joins⟩ := (extend?_eq_some_iff h.fits).1 extended
  exact ⟨h.of_encloses joins.encloses (joins.fits h.fits fits), joins.encloses⟩

theorem Anchored.extendAll? {b c : Bounds} {boxes : List Bounds} (h : b.Anchored)
    (extended : b.extendAll? boxes = some c) : c.Anchored := by
  induction boxes generalizing b with
  | nil =>
    cases extended
    exact h
  | cons box rest ih =>
    rw [Bounds.extendAll?, List.foldlM_cons, Option.bind_eq_bind, Option.bind_eq_some_iff]
      at extended
    obtain ⟨d, first, others⟩ := extended
    exact ih (h.extend? first).1 others

/-- Every box that the empty one at the origin is extended to, by any boxes, has the origin inside
and its edges on the grid, so its extents are not negative and its edges do not wrap around. Each
further step that gives a box moves the left and the top edge only down and the others only up. -/
theorem anchored_of_extendAll? {boxes : List Bounds} {b : Bounds}
    (reached : empty.extendAll? boxes = some b) :
    b.Anchored ∧ b.Proper ∧ b.right.toInt = b.rightEdge ∧ b.bottom.toInt = b.bottomEdge ∧
      ∀ other c, b.extend? other = some c → c.x ≤ b.x ∧ c.y ≤ b.y ∧ b.right ≤ c.right ∧
        b.bottom ≤ c.bottom := by
  have anchored := anchored_empty.extendAll? reached
  refine ⟨anchored, anchored.proper, toInt_right anchored.fits, toInt_bottom anchored.fits, ?_⟩
  intro other c extended
  obtain ⟨anchored', left, top, right, bottom⟩ := anchored.extend? extended
  rw [← toInt_right anchored.fits, ← toInt_right anchored'.fits] at right
  rw [← toInt_bottom anchored.fits, ← toInt_bottom anchored'.fits] at bottom
  exact ⟨Int32.le_iff_toInt_le.2 left, Int32.le_iff_toInt_le.2 top, Int32.le_iff_toInt_le.2 right,
    Int32.le_iff_toInt_le.2 bottom⟩

/-- A box of negative extents, one at the far end of the grid, and a further step. -/
theorem anchored_of_extendAll?_far :
    let boxes : List Bounds := [⟨-3, 0, -4, 5⟩, ⟨2147483647, 9, -3, -2147483648⟩]
    let b : Bounds := ⟨-3, 0, 2147483647, 5⟩
    let higher : Bounds := ⟨-3, -2147483642, 2147483647, 2147483647⟩
    empty.extendAll? boxes = some b ∧ b.Anchored ∧ b.right.toInt = b.rightEdge ∧
      b.extend? ⟨0, -2147483642, 1, 1⟩ = some higher ∧ higher.y ≤ b.y ∧
      b.bottom ≤ higher.bottom := by
  intro boxes b higher
  have reached : empty.extendAll? boxes = some b := by decide
  have extended : b.extend? ⟨0, -2147483642, 1, 1⟩ = some higher := by decide
  obtain ⟨anchored, -, right, -, grows⟩ := anchored_of_extendAll? reached
  obtain ⟨-, top, -, bottom⟩ := grows _ _ extended
  exact ⟨reached, anchored, right, extended, top, bottom⟩

end Bounds
end StyledText
