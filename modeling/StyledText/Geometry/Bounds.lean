import StyledText.Geometry

/-!
# Bounding boxes

A box on the layout grid is its left top corner and its extent. A layout starts with the empty
box at the origin and extends it by the box of each fragment, so the origin is never outside.
-/

namespace StyledText

/-- A box on the layout grid. -/
structure Bounds where
  x : Coordinate
  y : Coordinate
  width : Coordinate
  height : Coordinate
deriving DecidableEq

namespace Bounds

/-- The empty box at the origin. -/
def empty : Bounds := ⟨0, 0, 0, 0⟩

instance : Inhabited Bounds := ⟨empty⟩

/-- The right edge, which wraps around if it is out of range. -/
def right (b : Bounds) : Coordinate := b.x + b.width

/-- The bottom edge, which wraps around if it is out of range. -/
def bottom (b : Bounds) : Coordinate := b.y + b.height

/-- The smallest box around a box and another one, if the edges of the other one and the extent
of the result are in range. -/
def extend? (b other : Bounds) : Option Bounds := do
  let right := max b.right (← other.x.add? other.width)
  let bottom := max b.bottom (← other.y.add? other.height)
  let left := min b.x other.x
  let top := min b.y other.y
  return ⟨left, top, ← right.sub? left, ← bottom.sub? top⟩

/-- The box on a surface where the origin of the layout is at the given place. -/
def offset (b : Bounds) (originX originY : Binary32) : Rect :=
  ⟨originX + b.x.toBinary32, originY + b.y.toBinary32, b.width.toBinary32, b.height.toBinary32⟩

example : (⟨0, 0, 14, 5⟩ : Bounds).extend? ⟨-3, 2, 1, 4⟩ = some ⟨-3, 0, 17, 6⟩ := by decide
example : (⟨0, 0, 1, 1⟩ : Bounds).extend? ⟨2147483647, 0, 1, 1⟩ = none := by decide

end Bounds
end StyledText
