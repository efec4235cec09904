import StyledText.Error
import StyledText.Text.Quoted

/-!
# Diagnoses

A diagnosis spells an error out as the tree of its causes, with the texts in it quoted. The
command line reports errors in this form.
-/

namespace StyledText

open Text.Quoted (quote)

/-- A cause with one part. -/
def causeOf (name part : String) : String := name ++ "(" ++ part ++ ")"

/-- A cause with named parts. -/
def causeWith (name : String) (parts : List (String × String)) : String :=
  name ++ " \x7b " ++ ", ".intercalate (parts.map fun (key, value) => key ++ ": " ++ value) ++
    " \x7d"

namespace Markup

/-- The error as a tree of causes. -/
def ParseError.diagnosis : ParseError → String
  | unmatchedTag offset right =>
    causeWith "UnmatchedTag" [("offset", toString offset), ("right", quote right)]
  | emptyDelimiter => "EmptyDelimiter"

end Markup

/-- The error as a tree of causes. -/
def FontError.diagnosis : FontError → String
  | invalidData reason => causeOf "InvalidData" (quote reason)
  | copyFailed pointSize => causeOf "CopyFailed" (toString pointSize)
  | measureFailed reason => causeOf "MeasureFailed" (quote reason)
  | familyNotFound family => causeOf "FamilyNotFound" (quote family)
  | io reason => causeOf "Io" (quote reason)
  | panicked reason => reason

/-- The error as a tree of causes. -/
def ResourceError.diagnosis : ResourceError → String
  | duplicateFont name => causeOf "DuplicateFont" (quote name)
  | unnamedFont => "UnnamedFont"
  | emptyKey => "EmptyKey"
  | pointSizeOutOfRange size max =>
    causeWith "PointSizeOutOfRange" [("size", toString size), ("max", toString max)]
  | font cause => causeOf "Font" cause.diagnosis

/-- The error as a tree of causes. -/
def LayoutError.diagnosis : LayoutError → String
  | fragmentPoolExhausted maxFragments =>
    causeOf "FragmentPoolExhausted" (toString maxFragments)
  | noDefaultFont => "NoDefaultFont"
  | coordinateOverflow placed => causeOf "CoordinateOverflow" (toString placed)
  | font cause => causeOf "Font" cause.diagnosis
  | resource cause => causeOf "Registry" cause.diagnosis

/-- The error as a tree of causes. -/
def Error.diagnosis : Error → String
  | markup cause => causeOf "Markup" cause.diagnosis
  | layout cause => causeOf "Layout" cause.diagnosis
  | resource cause => causeOf "Registry" cause.diagnosis
  | font cause => causeOf "Font" cause.diagnosis
  | invalidArgument reason => causeOf "InvalidArgument" (quote reason)

example : (Error.markup (.unmatchedTag 4 "\x7d\x7d")).diagnosis =
    "Markup(UnmatchedTag \x7b offset: 4, right: \"\x7d\x7d\" \x7d)" := by decide +kernel

end StyledText
