import StyledText.Color
import StyledText.Text.Numeral
import StyledText.Text.WhiteSpace

/-!
# Hexadecimal colors

The text of a color is a hash sign and two hexadecimal digits a channel, the alpha left out when
it is 255. A reader also takes the form with one digit a channel, each standing for two of
itself, letters of either case, and white space around the whole. Each channel is a numeral of
two characters, so a plus sign and one digit are a channel as well.
-/

namespace StyledText
namespace Color

/-- The channels of a color, for telling which one is at fault. -/
inductive Channel where
  | red
  | green
  | blue
  | alpha
deriving DecidableEq

/-- The name of a channel. -/
def Channel.name : Channel → String
  | red => "red"
  | green => "green"
  | blue => "blue"
  | alpha => "alpha"

/-- Why a text is not a color. -/
inductive HexError where
  /-- The trimmed text does not begin with a hash sign. -/
  | missingHash (text : String)
  /-- The trimmed text has a character outside ASCII after the hash sign. -/
  | notAscii (text : String)
  /-- The count of characters after the hash sign fits no form. -/
  | wrongLength (count : Nat)
  | badChannel (channel : Channel) (cause : NumeralError)
deriving DecidableEq

/-- The text of the error. -/
def HexError.message : HexError → String
  | missingHash text => "Color must start with #, got: " ++ text
  | notAscii text => "Invalid hex color: " ++ text
  | wrongLength count =>
    "Invalid hex color length: expected 3, 6 or 8, got " ++ toString count
  | badChannel channel cause =>
    "Invalid " ++ channel.name ++ " component: " ++ cause.message

/-- A channel of two characters. -/
def readChannel (channel : Channel) (high low : Char) : Except HexError UInt8 :=
  match Numeral.read 16 256 [high, low] with
  | .ok value => .ok (UInt8.ofNat value)
  | .error cause => .error (.badChannel channel cause)

/-- The color with the given characters after the hash sign. -/
def readDigits : List Char → Except HexError Color
  | [r, g, b] => do
    let red ← readChannel .red r r
    let green ← readChannel .green g g
    let blue ← readChannel .blue b b
    return { red, green, blue }
  | [r₁, r₀, g₁, g₀, b₁, b₀] => do
    let red ← readChannel .red r₁ r₀
    let green ← readChannel .green g₁ g₀
    let blue ← readChannel .blue b₁ b₀
    return { red, green, blue }
  | [r₁, r₀, g₁, g₀, b₁, b₀, a₁, a₀] => do
    let red ← readChannel .red r₁ r₀
    let green ← readChannel .green g₁ g₀
    let blue ← readChannel .blue b₁ b₀
    let alpha ← readChannel .alpha a₁ a₀
    return { red, green, blue, alpha }
  | digits => .error (.wrongLength digits.length)

/-- The color of a text. -/
def ofHex (text : String) : Except HexError Color :=
  let trimmed := Text.trim text.toList
  match trimmed with
  | '#' :: digits =>
    if digits.all (·.toNat < 128) then readDigits digits
    else .error (.notAscii (String.ofList trimmed))
  | _ => .error (.missingHash (String.ofList trimmed))

/-- The two upper-case hexadecimal digits of a channel. -/
def channelDigits (value : UInt8) : List Char :=
  [(Nat.digitChar (value.toNat / 16)).toUpper, (Nat.digitChar (value.toNat % 16)).toUpper]

/-- The text of a color. -/
def toHex (c : Color) : String :=
  String.ofList ('#' :: (channelDigits c.red ++ channelDigits c.green ++ channelDigits c.blue ++
    if c.isOpaque then [] else channelDigits c.alpha))

example : toHex ⟨255, 165, 0, 255⟩ = "#FFA500" := by decide +kernel
example : toHex ⟨1, 2, 3, 4⟩ = "#01020304" := by decide +kernel
example : ofHex " #fA0\n" = .ok ⟨255, 170, 0, 255⟩ := rfl
example : ofHex "#+1+2+3" = .ok ⟨1, 2, 3, 255⟩ := rfl
example : ofHex "#12345" = .error (.wrongLength 5) := rfl

end Color
end StyledText
