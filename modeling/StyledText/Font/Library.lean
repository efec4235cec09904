import StyledText.Font.TrueType

/-!
# Font libraries

A library finds the fonts that are installed by their family names. The database that knows them is
not part of this library: it takes one as it comes.
-/

namespace StyledText

/-- Databases of the faces of font files. -/
class FontDatabase (Db : Type) where
  /-- What tells a face of a database from the others. -/
  Id : Type
  /-- A database without faces. -/
  empty : Db
  /-- The database with the faces of one more font file. -/
  add : Db → ByteArray → Db
  /-- How many faces there are. -/
  count : Db → Nat
  /-- The face that serves best as the regular one of a family, if the family is there. -/
  regular? : Db → String → Option Id
  /-- The font file of a face and the index of the face in it, if the file can be had. -/
  faceData? : Db → Id → Option (ByteArray × Nat)

/-- Installed fonts, found by the names of their families. -/
structure FontLibrary (Db : Type) where
  db : Db

namespace FontLibrary

variable {Db : Type} [FontDatabase Db]

/-- A library without fonts. -/
def empty : FontLibrary Db := ⟨FontDatabase.empty⟩

/-- The library with the faces of one more font file. -/
def add (library : FontLibrary Db) (data : ByteArray) : FontLibrary Db :=
  ⟨FontDatabase.add library.db data⟩

/-- How many faces the library has. -/
def size (library : FontLibrary Db) : Nat := FontDatabase.count library.db

/-- The regular face of a family at a point size. -/
def load (parser : FontParser) (library : FontLibrary Db) (family : String) (pointSize : Nat) :
    Except FontError (TrueTypeFont parser) :=
  match FontDatabase.regular? library.db family with
  | none => .error (.familyNotFound family)
  | some id =>
    match FontDatabase.faceData? library.db id with
    | none => .error (.familyNotFound family)
    | some (data, index) => TrueTypeFont.ofBytes parser data index pointSize

end FontLibrary
end StyledText
