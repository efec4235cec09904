import Mathlib
import StyledText.Geometry.Bounds

/-!
# Edges of boxes

A box is kept as a corner and an extent, and extending it takes the edges apart and puts them
together again. Here the edges are exact integers. While those of a box are in range, nothing wraps
around, and extending the box moves each edge to the outer one of two.

Results:
1. `Bounds.extend?_eq_some_iff`: what extending a box gives, and when it gives anything.
2. `Bounds.exists_joins_iff`: the box around two others is there if its extents are in range.
3. `Bounds.IsHull.extend`: the hull of the origin and of some boxes, extended by a box, is the hull
   with that box among them.
-/

namespace StyledText
namespace Coordinate

theorem toInt_min (a b : Coordinate) : (min a b).toInt = min a.toInt b.toInt := by
  have choice : min a b = if a ≤ b then a else b := rfl
  rw [choice]
  split
  · next le => rw [min_eq_left (Int32.le_iff_toInt_le.1 le)]
  · next gt => rw [min_eq_right (Int.le_of_lt (Int32.lt_iff_toInt_lt.1 (Int32.not_le.1 gt)))]

theorem toInt_max (a b : Coordinate) : (max a b).toInt = max a.toInt b.toInt := by
  have choice : max a b = if a ≤ b then b else a := rfl
  rw [choice]
  split
  · next le => rw [max_eq_right (Int32.le_iff_toInt_le.1 le)]
  · next gt => rw [max_eq_left (Int.le_of_lt (Int32.lt_iff_toInt_lt.1 (Int32.not_le.1 gt)))]

theorem toInt_add {a b : Coordinate} (h : InRange (a.toInt + b.toInt)) :
    (a + b).toInt = a.toInt + b.toInt := by
  obtain ⟨lower, upper⟩ := h
  rw [Int32.toInt_add]
  exact Int.bmod_eq_of_le (by omega) (by omega)

theorem inRange_of_toInt_eq {a : Coordinate} {n : Int} (h : a.toInt = n) : InRange n :=
  h ▸ toInt_inRange a

theorem InRange.max {m n : Int} (h : InRange m) (h' : InRange n) : InRange (max m n) := by
  rcases max_choice m n with first | second
  · rwa [first]
  · rwa [second]

end Coordinate

namespace Bounds

/-- The right edge, which may be out of range. -/
def rightEdge (b : Bounds) : Int := b.x.toInt + b.width.toInt

/-- The bottom edge, which may be out of range. -/
def bottomEdge (b : Bounds) : Int := b.y.toInt + b.height.toInt

/-- The right and the bottom edge are coordinates. -/
structure Fits (b : Bounds) : Prop where
  right : Coordinate.InRange b.rightEdge
  bottom : Coordinate.InRange b.bottomEdge

theorem toInt_right {b : Bounds} (h : b.Fits) : b.right.toInt = b.rightEdge :=
  Coordinate.toInt_add h.right

theorem toInt_bottom {b : Bounds} (h : b.Fits) : b.bottom.toInt = b.bottomEdge :=
  Coordinate.toInt_add h.bottom

theorem fits_empty : empty.Fits := ⟨by decide, by decide⟩

/-- Boxes with the same edges are the same. -/
theorem eq_of_edges {b c : Bounds} (left : b.x.toInt = c.x.toInt) (top : b.y.toInt = c.y.toInt)
    (right : b.rightEdge = c.rightEdge) (bottom : b.bottomEdge = c.bottomEdge) : b = c := by
  unfold rightEdge at right
  unfold bottomEdge at bottom
  have width : b.width.toInt = c.width.toInt := by omega
  have height : b.height.toInt = c.height.toInt := by omega
  rw [Int32.toInt_inj] at left top width height
  obtain ⟨x, y, _, _⟩ := b
  congr

/-- The edges of a box around two others: each is the outer one of theirs. -/
structure Joins (b other c : Bounds) : Prop where
  left : c.x.toInt = min b.x.toInt other.x.toInt
  top : c.y.toInt = min b.y.toInt other.y.toInt
  right : c.rightEdge = max b.rightEdge other.rightEdge
  bottom : c.bottomEdge = max b.bottomEdge other.bottomEdge

theorem Joins.fits {b other c : Bounds} (h : b.Fits) (h' : other.Fits) (joins : b.Joins other c) :
    c.Fits :=
  ⟨joins.right ▸ h.right.max h'.right, joins.bottom ▸ h.bottom.max h'.bottom⟩

/-- A box whose edges are coordinates is extended exactly by boxes whose edges are coordinates too,
to the box around both if that has an extent. -/
theorem extend?_eq_some_iff {b other c : Bounds} (h : b.Fits) :
    b.extend? other = some c ↔ other.Fits ∧ b.Joins other c := by
  simp only [extend?, Option.bind_eq_bind, Option.bind_eq_some_iff, Option.pure_def,
    Option.some.injEq, Coordinate.add?_eq_some_iff, Coordinate.sub?_eq_some_iff]
  constructor
  · rintro ⟨right, rightSum, bottom, bottomSum, width, widthDiff, height, heightDiff, rfl⟩
    have fits : other.Fits :=
      ⟨Coordinate.inRange_of_toInt_eq rightSum, Coordinate.inRange_of_toInt_eq bottomSum⟩
    rw [Coordinate.toInt_max, toInt_right h, rightSum] at widthDiff
    rw [Coordinate.toInt_max, toInt_bottom h, bottomSum] at heightDiff
    refine ⟨fits, Coordinate.toInt_min .., Coordinate.toInt_min .., ?_, ?_⟩
    · rw [rightEdge, widthDiff]
      exact add_sub_cancel ..
    · rw [bottomEdge, heightDiff]
      exact add_sub_cancel ..
  · rintro ⟨fits, joins⟩
    -- The extents of `c` are coordinates, so the differences of its edges are in range.
    have left : min b.x other.x = c.x := by
      rw [← Int32.toInt_inj, Coordinate.toInt_min, joins.left]
    have top : min b.y other.y = c.y := by
      rw [← Int32.toInt_inj, Coordinate.toInt_min, joins.top]
    refine ⟨_, Coordinate.toInt_add fits.right, _, Coordinate.toInt_add fits.bottom,
      c.width, ?_, c.height, ?_, ?_⟩
    · rw [left, Coordinate.toInt_max, toInt_right h, Coordinate.toInt_add fits.right]
      exact eq_sub_of_add_eq' joins.right
    · rw [top, Coordinate.toInt_max, toInt_bottom h, Coordinate.toInt_add fits.bottom]
      exact eq_sub_of_add_eq' joins.bottom
    · rw [left, top]

/-- The width of the box around two others, which may be out of range. -/
def joinedWidth (b other : Bounds) : Int :=
  max b.rightEdge other.rightEdge - min b.x.toInt other.x.toInt

/-- The height of the box around two others, which may be out of range. -/
def joinedHeight (b other : Bounds) : Int :=
  max b.bottomEdge other.bottomEdge - min b.y.toInt other.y.toInt

/-- There is a box around two others exactly if its extents are coordinates. -/
theorem exists_joins_iff {b other : Bounds} :
    (∃ c, b.Joins other c) ↔
      Coordinate.InRange (b.joinedWidth other) ∧ Coordinate.InRange (b.joinedHeight other) := by
  constructor
  · rintro ⟨c, joins⟩
    constructor
    · rw [joinedWidth, ← joins.right, ← joins.left]
      exact Coordinate.inRange_of_toInt_eq (add_sub_cancel_left ..).symm
    · rw [joinedHeight, ← joins.bottom, ← joins.top]
      exact Coordinate.inRange_of_toInt_eq (add_sub_cancel_left ..).symm
  · rintro ⟨width, height⟩
    refine ⟨⟨min b.x other.x, min b.y other.y, Int32.ofInt (b.joinedWidth other),
      Int32.ofInt (b.joinedHeight other)⟩, Coordinate.toInt_min .., Coordinate.toInt_min .., ?_, ?_⟩
    · rw [rightEdge, Coordinate.toInt_min, Coordinate.toInt_ofInt width]
      exact add_sub_cancel ..
    · rw [bottomEdge, Coordinate.toInt_min, Coordinate.toInt_ofInt height]
      exact add_sub_cancel ..

/-- Every edge of another box is within those of the box. -/
structure Encloses (b other : Bounds) : Prop where
  left : b.x.toInt ≤ other.x.toInt
  top : b.y.toInt ≤ other.y.toInt
  right : other.rightEdge ≤ b.rightEdge
  bottom : other.bottomEdge ≤ b.bottomEdge

theorem Encloses.refl (b : Bounds) : b.Encloses b := ⟨le_rfl, le_rfl, le_rfl, le_rfl⟩

theorem Encloses.trans {b c d : Bounds} (h : c.Encloses d) (h' : b.Encloses c) : b.Encloses d where
  left := h'.left.trans h.left
  top := h'.top.trans h.top
  right := h.right.trans h'.right
  bottom := h.bottom.trans h'.bottom

/-- The box around two others is around the first, also where the second has a negative extent. -/
theorem Joins.encloses {b other c : Bounds} (joins : b.Joins other c) : c.Encloses b where
  left := joins.left ▸ min_le_left ..
  top := joins.top ▸ min_le_left ..
  right := joins.right ▸ le_max_left ..
  bottom := joins.bottom ▸ le_max_left ..

/-! ## Hulls -/

/-- The hull of the origin and of some boxes: each edge is the outermost of theirs and zero. -/
structure IsHull (boxes : List Bounds) (b : Bounds) : Prop where
  left : b.x.toInt = (0 :: boxes.map (·.x.toInt)).min (List.cons_ne_nil _ _)
  top : b.y.toInt = (0 :: boxes.map (·.y.toInt)).min (List.cons_ne_nil _ _)
  right : b.rightEdge = (0 :: boxes.map rightEdge).max (List.cons_ne_nil _ _)
  bottom : b.bottomEdge = (0 :: boxes.map bottomEdge).max (List.cons_ne_nil _ _)

namespace IsHull

theorem empty : IsHull [] Bounds.empty := ⟨rfl, rfl, rfl, rfl⟩

/-- There is only one hull. -/
theorem unique {boxes : List Bounds} {b c : Bounds} (h : IsHull boxes b) (h' : IsHull boxes c) :
    b = c :=
  eq_of_edges (h.left.trans h'.left.symm) (h.top.trans h'.top.symm)
    (h.right.trans h'.right.symm) (h.bottom.trans h'.bottom.symm)

theorem min_append (numbers : List Int) (last : Int) :
    (0 :: (numbers ++ [last])).min (List.cons_ne_nil _ _) =
      min ((0 :: numbers).min (List.cons_ne_nil _ _)) last :=
  List.foldl_append

theorem max_append (numbers : List Int) (last : Int) :
    (0 :: (numbers ++ [last])).max (List.cons_ne_nil _ _) =
      max ((0 :: numbers).max (List.cons_ne_nil _ _)) last :=
  List.foldl_append

theorem extend {boxes : List Bounds} {b other c : Bounds} (h : IsHull boxes b)
    (joins : b.Joins other c) : IsHull (boxes ++ [other]) c where
  left := by rw [List.map_append, joins.left, h.left]; exact (min_append ..).symm
  top := by rw [List.map_append, joins.top, h.top]; exact (min_append ..).symm
  right := by rw [List.map_append, joins.right, h.right]; exact (max_append ..).symm
  bottom := by rw [List.map_append, joins.bottom, h.bottom]; exact (max_append ..).symm

theorem encloses {boxes : List Bounds} {b other : Bounds} (h : IsHull boxes b)
    (inside : other ∈ boxes) : b.Encloses other where
  left := h.left ▸ List.min_le_of_mem (List.mem_cons_of_mem _ (List.mem_map_of_mem inside))
  top := h.top ▸ List.min_le_of_mem (List.mem_cons_of_mem _ (List.mem_map_of_mem inside))
  right := h.right ▸ List.le_max_of_mem (List.mem_cons_of_mem _ (List.mem_map_of_mem inside))
  bottom := h.bottom ▸ List.le_max_of_mem (List.mem_cons_of_mem _ (List.mem_map_of_mem inside))

theorem le_max_iff {edge : ℚ} {numbers : List Int} :
    edge ≤ ((0 :: numbers).max (List.cons_ne_nil _ _) : Int) ↔
      edge ≤ 0 ∨ ∃ n ∈ numbers, edge ≤ n := by
  constructor
  · intro below
    rcases List.mem_cons.1 (List.max_mem (List.cons_ne_nil 0 numbers)) with zero | inside
    · rw [zero, Int.cast_zero] at below
      exact .inl below
    · exact .inr ⟨_, inside, below⟩
  · rintro (below | ⟨n, inside, below⟩)
    · refine below.trans ?_
      exact_mod_cast List.le_max_of_mem List.mem_cons_self
    · refine below.trans ?_
      exact_mod_cast List.le_max_of_mem (List.mem_cons_of_mem 0 inside)

/-- A real edge is within the right one of a hull exactly if it is within zero or within that of one
of the boxes. -/
theorem le_rightEdge_iff {α : Type} {items : List α} {box : α → Bounds} {b : Bounds}
    (h : IsHull (items.map box) b) {edge : ℚ} :
    edge ≤ b.rightEdge ↔ edge ≤ 0 ∨ ∃ item ∈ items, edge ≤ (box item).rightEdge := by
  rw [h.right, le_max_iff]
  simp only [List.mem_map, exists_exists_and_eq_and]

theorem le_bottomEdge_iff {α : Type} {items : List α} {box : α → Bounds} {b : Bounds}
    (h : IsHull (items.map box) b) {edge : ℚ} :
    edge ≤ b.bottomEdge ↔ edge ≤ 0 ∨ ∃ item ∈ items, edge ≤ (box item).bottomEdge := by
  rw [h.bottom, le_max_iff]
  simp only [List.mem_map, exists_exists_and_eq_and]

end IsHull
end Bounds
end StyledText
