import StyledText.Color
import StyledText.Font.Face
import StyledText.Geometry.Bounds

/-!
# Fragments

A layout places fragments: runs of text in one face and one color, and images. On the layout grid
a fragment has a box; a snapshot tells what it shows without reference to a font.
-/

namespace StyledText

/-- A run of text. -/
structure TextFragment (F : Type) where
  font : F
  content : String
  color : Color
  position : Point
  metrics : TextMetrics
deriving DecidableEq

/-- Rewrites a run of text in its place. Its content is emptied and then filled again. -/
def TextFragment.update {F : Type} (slot : TextFragment F) (font : F) (content : String)
    (color : Color) (position : Point) (metrics : TextMetrics) : TextFragment F :=
  let slot := { slot with font }
  let slot := { slot with content := "" }
  let slot := { slot with content := slot.content ++ content }
  let slot := { slot with color }
  let slot := { slot with position }
  { slot with metrics }

/-- An image at its own size. -/
structure ImageFragment where
  image : Image
  position : Point
  size : Size
deriving DecidableEq

/-- A piece of a layout. -/
inductive Fragment (F : Type) where
  | text (fragment : TextFragment F)
  | image (fragment : ImageFragment)
deriving DecidableEq

/-- The text, color and point size of a run of text. -/
structure SnapshotText where
  content : String
  color : Color
  pointSize : Nat
deriving DecidableEq

/-- What a fragment shows and where. -/
structure Snapshot where
  /-- The run of text, unless the fragment is an image. -/
  text : Option SnapshotText
  x : Coordinate
  y : Coordinate
  width : Binary32
  height : Binary32
deriving DecidableEq

namespace Fragment

variable {F : Type}

/-- The left top corner. -/
def position : Fragment F → Point
  | text t => t.position
  | image i => i.position

/-- The box on the layout grid. Of the size of an image it has the whole parts. -/
def box : Fragment F → Bounds
  | text t => ⟨t.position.x, t.position.y, t.metrics.width, t.metrics.height⟩
  | image i => ⟨i.position.x, i.position.y, i.size.width.truncate, i.size.height.truncate⟩

/-- What the fragment shows. -/
def snapshot [FontFace F] : Fragment F → Snapshot
  | text t => {
      text := some ⟨t.content, t.color, FontFace.pointSize t.font⟩
      x := t.position.x
      y := t.position.y
      width := t.metrics.width.toBinary32
      height := t.metrics.height.toBinary32 }
  | image i => {
      text := none
      x := i.position.x
      y := i.position.y
      width := i.size.width
      height := i.size.height }

end Fragment
end StyledText
