import StyledText.Markup.Command

/-!
# Tags

The text between two delimiters is a tag. Its first colon parts a name from a value. Four names
take a value and set a style or draw an image, `newline` takes none, and any other tag is a
reference to a string; the name of a style without a value means nothing.
-/

namespace StyledText
namespace Markup

/-- What stands between two delimiters. -/
structure Tag where
  name : String
  value : Option String
deriving DecidableEq

namespace Tag

/-- The tag of a text: the name ends at the first colon, and the value is all behind it. -/
def ofBody (body : List Char) : Tag :=
  match body.dropWhile (· != ':') with
  | [] => ⟨String.ofList body, none⟩
  | _ :: value => ⟨String.ofList (body.takeWhile (· != ':')), some (String.ofList value)⟩

/-- The command that a reserved name makes of its value. -/
def reserved? (name : String) : Option (String → Command) :=
  if name = "color" then some .setColor
  else if name = "font" then some .setFont
  else if name = "size" then some .setSize
  else if name = "image" then some .drawImage
  else none

/-- The command of a tag. -/
def command? (tag : Tag) : Option Command :=
  match reserved? tag.name, tag.value with
  | some make, some value => some (make value)
  | some _, none => none
  | none, value =>
    if tag.name = "newline" ∧ value = none then some .newline else some (.useString tag.name)

example : (ofBody ['c', 'o', 'l', 'o', 'r', ':', 'a', ':', 'b']).command? =
    some (.setColor "a:b") := by decide +kernel
example : (ofBody ['s', 'i', 'z', 'e']).command? = none := by decide +kernel
example : (⟨"newline", some "x"⟩ : Tag).command? = some (.useString "newline") := by
  decide +kernel

end Tag
end Markup
end StyledText
