import StyledText.Font.Face
import StyledText.Font.Parser
import StyledText.Text.Quoted

/-!
# TrueType fonts

A TrueType font is a face of a font file at a point size. Its vertical metrics are read once, when
the file is loaded; to measure a text the file is parsed again. A run of text is as wide as the
advances of its glyphs together. Lengths are rounded to single precision after each step and up to
whole coordinates at the end.
-/

namespace StyledText

/-- The metrics of a face in design units. -/
structure VerticalMetrics where
  unitsPerEm : Binary32
  ascender : Binary32
  descender : Binary32
  lineGap : Binary32

/-- The metrics of a parsed face. -/
def ParsedFace.metrics (face : ParsedFace) : VerticalMetrics where
  unitsPerEm := .ofInt face.unitsPerEm
  ascender := .ofInt face.ascender
  descender := .ofInt face.descender
  lineGap := .ofInt face.lineGap

/-- A face of a font file at a point size, for files that the parser reads. -/
structure TrueTypeFont (parser : FontParser) where
  /-- The font file. -/
  data : ByteArray
  /-- The index of the face in the file. -/
  index : Nat
  pointSize : Nat
  family : Option String
  metrics : VerticalMetrics

/-- The sum of advances, added up in 32 bits from the first one on; nothing if it leaves them on the
way. -/
def advanceSum? (advances : List Int32) : Option Int32 := advances.foldlM Coordinate.add? 0

namespace TrueTypeFont

/-- The face at an index of a file. -/
def ofBytes (parser : FontParser) (data : ByteArray) (index pointSize : Nat) :
    Except FontError (TrueTypeFont parser) :=
  match parser data index with
  | none => .error (.invalidData ("no usable face at index " ++ toString index))
  | some face => .ok { data, index, pointSize, family := face.family?, metrics := face.metrics }

/-- The first face of a file, of which the bytes are given or why it cannot be read. -/
def ofFile (parser : FontParser) (file : Except String ByteArray) (pointSize : Nat) :
    Except FontError (TrueTypeFont parser) :=
  match file with
  | .error reason => .error (.io reason)
  | .ok data => ofBytes parser data 0 pointSize

variable {parser : FontParser} (font : TrueTypeFont parser)

/-- The length of a design unit. -/
def scale : Binary32 := Binary32.ofNat font.pointSize / font.metrics.unitsPerEm

/-- The line height: from ascender to descender, and the gap. -/
def lineHeight : Coordinate :=
  let metrics := font.metrics
  ((metrics.ascender - metrics.descender + metrics.lineGap) * font.scale).ceil

/-- The width of a run of text whose advances have the given sum. -/
def widthOf (advance : Int) : Coordinate := (Binary32.ofInt advance * font.scale).ceil

/-- The extent of a text. A sum of advances that overflows is the end of the program. -/
def measure (text : String) : Except FontError TextMetrics :=
  match parser font.data font.index with
  | none => .error (.measureFailed "font data no longer parses")
  | some face =>
    match advanceSum? (face.shape text) with
    | none => .error (.panicked "attempt to add with overflow")
    | some advance => .ok ⟨font.widthOf advance.toInt, font.lineHeight⟩

instance : FontFace (TrueTypeFont parser) where
  family? := family
  pointSize := pointSize
  copyAt font pointSize := .ok { font with pointSize }
  lineHeight := lineHeight
  measure := measure

/-- A text that tells a font from others in a diagnosis. -/
def description : String :=
  let family := match font.family with
    | some name => "Some(" ++ Text.Quoted.quote name ++ ")"
    | none => "None"
  "TrueTypeFont \x7b family: " ++ family ++ ", size: " ++ toString font.pointSize ++
    ", data_len: " ++ toString font.data.size ++ " \x7d"

end TrueTypeFont
end StyledText
