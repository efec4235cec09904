import StyledText.Json

/-!
# Layout commands

A markup text stands for a list of commands: runs of text to draw, references to registered
strings, images and styles, and line breaks.
-/

namespace StyledText

/-- One instruction of a layout. -/
inductive Command where
  /-- Draw the text. -/
  | drawText (text : String)
  /-- Draw the string registered under the key. -/
  | useString (key : String)
  /-- Draw on in the color registered under the key. -/
  | setColor (key : String)
  /-- Draw on in the font registered under the name. -/
  | setFont (name : String)
  /-- Draw on at the point size registered under the key. -/
  | setSize (key : String)
  /-- Draw the image registered under the key. -/
  | drawImage (key : String)
  /-- Go to the beginning of the next line. -/
  | newline
deriving DecidableEq

namespace Command

/-- The name of the kind of command. -/
def kind : Command → String
  | drawText _ => "DrawText"
  | useString _ => "UseStringRef"
  | setColor _ => "SetColor"
  | setFont _ => "SetFont"
  | setSize _ => "SetSize"
  | drawImage _ => "DrawImage"
  | newline => "Newline"

/-- The text, key or name that the command holds. -/
def data? : Command → Option String
  | drawText s | useString s | setColor s | setFont s | setSize s | drawImage s => some s
  | newline => none

/-- The command of a kind with the given data. -/
def ofKind? : String → Option String → Option Command
  | "DrawText", some s => some (drawText s)
  | "UseStringRef", some s => some (useString s)
  | "SetColor", some s => some (setColor s)
  | "SetFont", some s => some (setFont s)
  | "SetSize", some s => some (setSize s)
  | "DrawImage", some s => some (drawImage s)
  | "Newline", none => some newline
  | _, _ => none

theorem ofKind?_kind (c : Command) : ofKind? c.kind c.data? = some c := by
  cases c <;> rfl

/-- A command as a JSON object. -/
def toJson (c : Command) : Json :=
  .object (("type", .string c.kind) ::
    match c.data? with
    | some s => [("data", .string s)]
    | none => [])

end Command

/-- The commands of a layout, in order. -/
abbrev CommandList := List Command

namespace CommandList

/-- The list with one more command at its end. -/
def push (list : CommandList) (c : Command) : CommandList := list ++ [c]

/-- A list as a JSON array. -/
def toJson (list : CommandList) : Json := .array (list.map Command.toJson)

end CommandList
end StyledText
