import StyledText.Binary32

/-!
# Points, sizes and rectangles

Layout happens on a grid of 32-bit coordinates, drawing on a surface with single-precision ones.
Of an image a layout sees nothing but its extent, and the surface draws it by its handle.
-/

namespace StyledText

/-- A position or an extent on the layout grid. -/
abbrev Coordinate := Int32

namespace Coordinate

/-- The integer is a coordinate. -/
def InRange (n : Int) : Prop := -0x80000000 ≤ n ∧ n < 0x80000000

instance (n : Int) : Decidable (InRange n) := inferInstanceAs (Decidable (_ ∧ _))

/-- The coordinate of an integer, if it is in range. -/
def ofInt? (n : Int) : Option Coordinate :=
  if InRange n then some (Int32.ofInt n) else none

/-- The sum, if it is in range. -/
def add? (a b : Coordinate) : Option Coordinate := ofInt? (a.toInt + b.toInt)

/-- The difference, if it is in range. -/
def sub? (a b : Coordinate) : Option Coordinate := ofInt? (a.toInt - b.toInt)

theorem toInt_inRange (a : Coordinate) : InRange a.toInt :=
  ⟨Int32.le_toInt a, Int32.toInt_lt a⟩

theorem toInt_ofInt {n : Int} (h : InRange n) : (Int32.ofInt n).toInt = n :=
  Int32.toInt_ofInt_of_le h.1 h.2

/-- A coordinate is found exactly for an integer in range, and keeps its value. -/
theorem ofInt?_eq_some_iff {n : Int} {a : Coordinate} : ofInt? n = some a ↔ a.toInt = n := by
  unfold ofInt?
  constructor
  · intro h
    split at h
    · next inRange => rw [← Option.some.inj h, toInt_ofInt inRange]
    · exact nomatch h
  · rintro rfl
    rw [if_pos (toInt_inRange a), Int32.ofInt_toInt]

theorem ofInt?_eq_none_iff {n : Int} : ofInt? n = none ↔ ¬InRange n := by
  unfold ofInt?
  split <;> simp_all

theorem add?_eq_some_iff {a b c : Coordinate} :
    add? a b = some c ↔ c.toInt = a.toInt + b.toInt := ofInt?_eq_some_iff

theorem sub?_eq_some_iff {a b c : Coordinate} :
    sub? a b = some c ↔ c.toInt = a.toInt - b.toInt := ofInt?_eq_some_iff

/-- The coordinate as a number of the surface. -/
def toBinary32 (a : Coordinate) : Binary32 := Binary32.ofInt a.toInt

end Coordinate

/-- A place on the layout grid. -/
structure Point where
  x : Coordinate
  y : Coordinate
deriving DecidableEq

/-- The extent of an image. -/
structure Size where
  width : Binary32
  height : Binary32
deriving DecidableEq

/-- An image of the surface. -/
structure Image where
  /-- What the surface knows the image by. -/
  handle : Nat := 0
  size : Size
deriving DecidableEq

instance : Coe Size Image := ⟨fun size => { size }⟩
instance : Coe Image Size := ⟨Image.size⟩

/-- A rectangle of the surface. -/
structure Rect where
  x : Binary32
  y : Binary32
  width : Binary32
  height : Binary32
deriving DecidableEq

end StyledText
