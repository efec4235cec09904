import StyledText.Font.Face
import StyledText.Text.Search

/-!
# Fixed-pitch faces

A face without glyphs, for layouts where no font is at hand: each character is as wide as the
others, and its width and the line height are fixed ratios of the point size. Such a face can
keep to multiples of a size when it is copied, and can refuse sizes and texts.
-/

namespace StyledText

/-- A ratio of two integers. -/
structure Ratio where
  numerator : Int
  denominator : Int
deriving DecidableEq

/-- The part of a natural number that a ratio gives, without its fraction. -/
def Ratio.of (r : Ratio) (n : Nat) : Int := ((n : Int) * r.numerator).tdiv r.denominator

/-- A face whose characters are all equally wide. -/
structure FixedPitch where
  family : Option String
  pointSize : Nat
  /-- The width of a character, as a part of the point size. -/
  advance : Ratio := ⟨1, 2⟩
  /-- The line height, as a part of the point size. -/
  line : Ratio := ⟨1, 1⟩
  /-- The height of a run of text, if it is not the line height. -/
  runHeight : Option Coordinate := none
  /-- Copies are at multiples of this size, and at least at it. -/
  snap : Nat := 1
  /-- Sizes at which there is no copy. -/
  refusedSizes : List Nat := []
  /-- A run in which this text occurs cannot be measured. -/
  refusedText : Option String := none
deriving DecidableEq

namespace FixedPitch

/-- The line height, moved into the range of the grid. -/
def lineHeight (f : FixedPitch) : Coordinate := Int32.ofIntClamp (f.line.of f.pointSize)

/-- The extent of a run: a width for each character, moved into the range of the grid. -/
def measure (f : FixedPitch) (text : String) : Except FontError TextMetrics :=
  let metrics : TextMetrics :=
    ⟨Int32.ofIntClamp (text.length * f.advance.of f.pointSize), f.runHeight.getD f.lineHeight⟩
  match f.refusedText with
  | some refused =>
    if Text.occursIn refused.toList text.toList then .error (.measureFailed text)
    else .ok metrics
  | none => .ok metrics

/-- The face at another size, moved down to a multiple of the step. -/
def copyAt (f : FixedPitch) (size : Nat) : Except FontError FixedPitch :=
  if size ∈ f.refusedSizes then .error (.copyFailed size)
  else .ok { f with pointSize := max (size / f.snap * f.snap) f.snap }

instance : FontFace FixedPitch where
  family? := family
  pointSize := pointSize
  copyAt := copyAt
  lineHeight := lineHeight
  measure := measure

end FixedPitch
end StyledText
