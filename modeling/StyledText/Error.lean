import StyledText.Layout.Pass
import StyledText.Markup.Parser

/-!
# Errors

What can fail on the way from a markup text to a layout.
-/

namespace StyledText

/-- Why a markup text cannot be laid out. -/
inductive Error where
  | markup (cause : Markup.ParseError)
  | layout (cause : LayoutError)
  | resource (cause : ResourceError)
  | font (cause : FontError)
  | invalidArgument (reason : String)
deriving DecidableEq

/-- The text of the error. -/
def Error.message : Error → String
  | markup cause => "Parsing failed: " ++ cause.message
  | layout cause => "Layout failed: " ++ cause.message
  | resource cause => "Registration failed: " ++ cause.message
  | font cause => "Font error: " ++ cause.message
  | invalidArgument reason => "Invalid argument: " ++ reason

/-- Why the program has ended, if it has. -/
def Error.panic? : Error → Option String
  | layout cause => cause.panic?
  | resource cause => cause.panic?
  | font cause => cause.panic?
  | _ => none

end StyledText
