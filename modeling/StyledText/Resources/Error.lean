import StyledText.Font.Face

/-!
# Errors of resources

What can fail when something is registered, and when a font is asked for at a size.
-/

namespace StyledText

/-- Why something cannot be registered, or a font not be had at a size. -/
inductive ResourceError where
  | duplicateFont (name : String)
  | unnamedFont
  | emptyKey
  | pointSizeOutOfRange (size max : Nat)
  | font (cause : FontError)
deriving DecidableEq

/-- The text of the error. -/
def ResourceError.message : ResourceError → String
  | duplicateFont name => "Font '" ++ name ++ "' is already registered"
  | unnamedFont => "Cannot determine font name: no name given and the font has no family name"
  | emptyKey => "Registry keys must not be empty"
  | pointSizeOutOfRange size max =>
    "Point size " ++ toString size ++ " is outside the supported range 1..=" ++ toString max
  | font cause => cause.message

/-- Why the program has ended, if it has. -/
def ResourceError.panic? : ResourceError → Option String
  | font cause => cause.panic?
  | _ => none

end StyledText
