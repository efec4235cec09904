import StyledText.Json.Record

/-!
# Markup options

The two delimiters around a tag, and whether a line feed in the text is a command. A tag stands
between two opening and two closing braces unless other delimiters are chosen.
-/

namespace StyledText
namespace Markup

/-- How markup is written. -/
structure Options where
  left : String := "\x7b\x7b"
  right : String := "\x7d\x7d"
  /-- A line feed outside a tag is the command to begin a line. -/
  newlineAsCommand : Bool := false
deriving DecidableEq

instance : Inhabited Options := ⟨⟨"\x7b\x7b", "\x7d\x7d", false⟩⟩

/-- Options from a JSON record. -/
def Options.ofJson? (value : Json) : Option Options := do
  let given ← value.record? ["leftDelimiter", "rightDelimiter", "newlineAsCommand"]
  let standard : Options := default
  return {
    left := ← Json.field? given "leftDelimiter" (some standard.left) Json.string?
    right := ← Json.field? given "rightDelimiter" (some standard.right) Json.string?
    newlineAsCommand :=
      ← Json.field? given "newlineAsCommand" (some standard.newlineAsCommand) Json.bool? }

end Markup
end StyledText
