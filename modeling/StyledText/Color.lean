/-!
# Colors

A color has eight bits for each of red, green, blue and alpha, and is opaque unless an alpha is
given.
-/

namespace StyledText

/-- A color with eight bits a channel. -/
structure Color where
  red : UInt8
  green : UInt8
  blue : UInt8
  alpha : UInt8 := 255
deriving DecidableEq

namespace Color

/-- Opaque white. -/
def white : Color := ⟨255, 255, 255, 255⟩

instance : Inhabited Color := ⟨white⟩

/-- Nothing behind the color shows through it. -/
def isOpaque (c : Color) : Bool := c.alpha == 255

end Color
end StyledText
