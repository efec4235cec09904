import StyledText.Geometry

/-!
# Font faces

A face is a font at one point size. A layout asks it for the distance of two lines and for the
extent of a run of text, and asks for copies of it at other sizes.
-/

namespace StyledText

/-- What a font can fail with. -/
inductive FontError where
  | invalidData (reason : String)
  | copyFailed (pointSize : Nat)
  | measureFailed (reason : String)
  | familyNotFound (family : String)
  | io (reason : String)
  /-- The program has ended, for the given reason. No font answers this. It is handed on like an
  answer, since nothing from a measurement to the end of a layout looks at the cause of an error. -/
  | panicked (reason : String)
deriving DecidableEq

/-- The text of the error. -/
def FontError.message : FontError → String
  | invalidData reason => "Failed to parse font data: " ++ reason
  | copyFailed pointSize => "Failed to copy font at " ++ toString pointSize ++ "pt"
  | measureFailed reason => "Failed to measure text: " ++ reason
  | familyNotFound family => "Font family '" ++ family ++ "' not found"
  | io reason => "I/O error: " ++ reason
  | panicked reason => reason

/-- Why the program has ended, if it has. -/
def FontError.panic? : FontError → Option String
  | panicked reason => some reason
  | _ => none

/-- The extent of a run of text on the layout grid. -/
structure TextMetrics where
  width : Coordinate
  height : Coordinate
deriving DecidableEq

/-- The faces of a kind of font. -/
class FontFace (F : Type) where
  /-- The name of the family, if the font tells one. -/
  family? : F → Option String
  pointSize : F → Nat
  /-- The same font at another size. -/
  copyAt : F → Nat → Except FontError F
  /-- The distance of two lines. -/
  lineHeight : F → Coordinate
  /-- The extent of a text on one line. -/
  measure : F → String → Except FontError TextMetrics

namespace FontFace

variable {F : Type} [FontFace F]

/-- The font of a face at a size: the face itself at its own size, and else a copy of it. -/
def variant (base : F) (size : Nat) : Except FontError F :=
  if size = pointSize base then .ok base else copyAt base size

/-- Faces of either of two kinds. -/
instance {G : Type} [FontFace G] : FontFace (F ⊕ G) where
  family? | .inl f => family? f | .inr g => family? g
  pointSize | .inl f => pointSize f | .inr g => pointSize g
  copyAt
    | .inl f, size => (copyAt f size).map .inl
    | .inr g, size => (copyAt g size).map .inr
  lineHeight | .inl f => lineHeight f | .inr g => lineHeight g
  measure | .inl f => measure f | .inr g => measure g

end FontFace
end StyledText
