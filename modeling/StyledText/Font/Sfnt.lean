import StyledText.Font.Library
import StyledText.Font.Sfnt.CharacterMap
import StyledText.Font.Sfnt.Container
import StyledText.Font.Sfnt.Names

/-!
# Plain font files

A parser for font files without shaping, for runs in which no other is at hand: a text has one glyph
for each character, whose advance is that of the metrics table, and the vertical metrics are those
of the horizontal header. A database of such files holds their faces in order and takes the first
one of a family as the regular one.
-/

namespace StyledText
namespace Sfnt

/-- The tables of a face. -/
structure Face where
  unitsPerEm : Nat
  ascender : Int
  descender : Int
  lineGap : Int
  glyphCount : Nat
  /-- How many glyphs have an advance of their own; the others have the last one's. -/
  advanceCount : Nat
  advances : Option ByteArray
  characterMap : Option CharacterMap

namespace Face

/-- The versions of the table of the glyph count. -/
def maximaVersions : List Nat := [0x00005000, 0x00010000]

/-- The face with the given tables. The tables of the header, of the horizontal header and of the
glyph count are required. -/
def ofTables? (table? : String → Option ByteArray) : Option Face := do
  let head ← table? "head"
  let horizontal ← table? "hhea"
  let maxima ← table? "maxp"
  if head.size < 54 ∨ horizontal.size < 36 then none
  else
    let unitsPerEm ← u16? head 18
    let locationFormat ← u16? head 50
    let version ← u32? maxima 0
    let glyphCount ← u16? maxima 4
    if unitsPerEm < 16 ∨ 16384 < unitsPerEm ∨ 1 < locationFormat then none
    else if version ∉ maximaVersions ∨ glyphCount = 0 then none
    else
      return {
        unitsPerEm
        ascender := ← i16? horizontal 4
        descender := ← i16? horizontal 6
        lineGap := ← i16? horizontal 8
        glyphCount
        advanceCount := ← u16? horizontal 34
        advances := table? "hmtx"
        characterMap := (table? "cmap").bind CharacterMap.ofTable? }

/-- The glyph of a character, which is the first one if it has no other. -/
def glyph (face : Face) (c : Char) : Nat := (face.characterMap.bind (·.glyph? c)).getD 0

/-- The advance of a glyph. A face without a usable table of advances moves on by the whole size,
and a glyph that it does not have is not moved on at all. -/
def glyphAdvance (face : Face) (glyph : Nat) : Nat :=
  match face.advances with
  | none => face.unitsPerEm
  | some table =>
    if face.advanceCount = 0 ∨ table.size < 4 * face.advanceCount then face.unitsPerEm
    else if max face.advanceCount face.glyphCount ≤ glyph then 0
    else (u16? table (4 * min glyph (face.advanceCount - 1))).getD 0

/-- The advance of a character. -/
def advance (face : Face) (c : Char) : Nat := face.glyphAdvance (face.glyph c)

/-- What a layout needs of the face, under the given names. -/
def parsed (face : Face) (names : List NameRecord) : ParsedFace where
  names := names.map fun name => ⟨name.purpose, name.utf16?⟩
  unitsPerEm := face.unitsPerEm
  ascender := face.ascender
  descender := face.descender
  lineGap := face.lineGap
  shape text := text.toList.map fun c => Int32.ofNat (face.advance c)

end Face

/-- The tables of a face of a file, by their tags. -/
def tables? (data : ByteArray) (index : Nat) : Option (String → Option ByteArray) :=
  (tableRecords? data index).map (table? data)

/-- The parser for plain font files. -/
def parse : FontParser := fun data index => do
  let table? ← tables? data index
  let face ← Face.ofTables? table?
  return face.parsed (((table? "name").bind nameRecords?).getD [])

/-! ## Databases -/

/-- A face of a font file, and the names under which it is found. -/
structure NamedFace where
  data : ByteArray
  index : Nat
  families : List String

/-- The face at an index of a file, if it has a family name and a PostScript name. Whether the rest
of it is usable shows when it is loaded. -/
def namedFace? (data : ByteArray) (index : Nat) : Option NamedFace := do
  let table? ← tables? data index
  let records ← (table? "name").bind nameRecords?
  let families := familyNames records
  if families.isEmpty || !hasPostScriptName records then none
  else some ⟨data, index, families⟩

/-- The faces of a file that have the names that they need. A collection has no more faces than four
bytes each allow. -/
def namedFaces (data : ByteArray) : List NamedFace :=
  (List.range (min (faceCount data) (data.size / 4 + 1))).filterMap (namedFace? data)

/-- The faces of some font files, in order. -/
structure Database where
  faces : List NamedFace := []

instance : FontDatabase Database where
  Id := NamedFace
  empty := {}
  add db data := ⟨db.faces ++ namedFaces data⟩
  count db := db.faces.length
  regular? db family := db.faces.find? (·.families.contains family)
  faceData? _ face := some (face.data, face.index)

end Sfnt
end StyledText
