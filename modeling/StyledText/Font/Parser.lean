import StyledText.Geometry

/-!
# Parsers of font files

How a font file is parsed, and how a text is shaped into glyphs, is not part of this library. It
takes a parser as it comes and asks for nothing but the parts of a face below, each of which depends
on the file, the index of the face and the text alone.
-/

namespace StyledText

/-- A name of a face. -/
structure FaceName where
  /-- What the name is for, as the naming table numbers it. -/
  id : Nat
  /-- The text of the name, if it is in an encoding that the parser knows. -/
  text : Option String
deriving DecidableEq

/-- The number of a family name. -/
def FaceName.family : Nat := 1

/-- A face of a font file, as far as a layout needs it. Lengths are in design units, of which there
is a fixed count to the point size. -/
structure ParsedFace where
  /-- The names, in the order of the file. -/
  names : List FaceName
  unitsPerEm : Int
  ascender : Int
  descender : Int
  lineGap : Int
  /-- The advances of the glyphs into which a text is shaped, in order. -/
  shape : String → List Int32

/-- The name of the family: the first one whose text is known. -/
def ParsedFace.family? (face : ParsedFace) : Option String :=
  (face.names.filter (·.id == FaceName.family)).findSome? (·.text)

/-- The texts of the face are not shaped: there is one glyph for each character, and it moves on by
the advance of the character, which has 16 bits. There are as many design units to the point size as
font files may have. -/
structure ParsedFace.Unshaped (face : ParsedFace) (advance : Char → Nat) : Prop where
  shape : ∀ text, face.shape text = text.toList.map fun c => Int32.ofNat (advance c)
  advance_lt : ∀ c, advance c < 0x10000
  unitsPerEm : 16 ≤ face.unitsPerEm ∧ face.unitsPerEm ≤ 0x4000

/-- A parser gives the face at an index of a font file, if there is one that can be used. -/
abbrev FontParser := ByteArray → Nat → Option ParsedFace

end StyledText
