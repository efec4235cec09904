import StyledText.Color.Hex
import StyledText.Json.Record

/-!
# Colors in JSON

A color is written as an object of its channels, the alpha left out when it is 255. It is read
from such an object, in which an absent alpha is 255 and other keys are passed over, and from a
string that holds a hexadecimal color.
-/

namespace StyledText
namespace Color

/-- Why a JSON value is not a color. -/
inductive JsonError where
  /-- The string is not a hexadecimal color. -/
  | badText (cause : HexError)
  /-- The value is neither a string nor an object of channels. -/
  | notColor
deriving DecidableEq

/-- The channel that a value is. -/
def channel? (value : Json) : Option UInt8 := (value.natBelow? 256).map UInt8.ofNat

/-- The color of an object of channels. -/
def ofFields? (fields : List (String × Json)) : Option Color := do
  let red ← Json.field? fields "r" none channel?
  let green ← Json.field? fields "g" none channel?
  let blue ← Json.field? fields "b" none channel?
  let alpha ← Json.field? fields "a" (some 255) channel?
  return { red, green, blue, alpha }

/-- The color of a JSON value. -/
def ofJson : Json → Except JsonError Color
  | .string text =>
    match ofHex text with
    | .ok color => .ok color
    | .error cause => .error (.badText cause)
  | .object fields =>
    match ofFields? fields with
    | some color => .ok color
    | none => .error .notColor
  | _ => .error .notColor

/-- A channel as a JSON number. -/
def channelJson (value : UInt8) : Json := .integer value.toNat

/-- The object of the channels of a color. -/
def toJson (c : Color) : Json :=
  .object ([("r", channelJson c.red), ("g", channelJson c.green), ("b", channelJson c.blue)] ++
    if c.isOpaque then [] else [("a", channelJson c.alpha)])

end Color
end StyledText
