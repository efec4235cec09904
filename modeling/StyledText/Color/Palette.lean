import StyledText.Color

/-!
# The palette of named colors

The colors that have a name of their own, in a fixed order. All are opaque but `transparent`.
-/

namespace StyledText
namespace Color

/-- The named colors. -/
def palette : List (String × Color) := [
  ("black", ⟨0, 0, 0, 255⟩),
  ("white", ⟨255, 255, 255, 255⟩),
  ("red", ⟨255, 0, 0, 255⟩),
  ("green", ⟨0, 255, 0, 255⟩),
  ("blue", ⟨0, 0, 255, 255⟩),
  ("yellow", ⟨255, 255, 0, 255⟩),
  ("cyan", ⟨0, 255, 255, 255⟩),
  ("magenta", ⟨255, 0, 255, 255⟩),
  ("gray", ⟨128, 128, 128, 255⟩),
  ("darkred", ⟨139, 0, 0, 255⟩),
  ("darkgreen", ⟨0, 100, 0, 255⟩),
  ("darkblue", ⟨0, 0, 139, 255⟩),
  ("darkgray", ⟨169, 169, 169, 255⟩),
  ("lightgray", ⟨211, 211, 211, 255⟩),
  ("orange", ⟨255, 165, 0, 255⟩),
  ("purple", ⟨128, 0, 128, 255⟩),
  ("pink", ⟨255, 192, 203, 255⟩),
  ("brown", ⟨165, 42, 42, 255⟩),
  ("gold", ⟨255, 215, 0, 255⟩),
  ("silver", ⟨192, 192, 192, 255⟩),
  ("lightblue", ⟨173, 216, 230, 255⟩),
  ("lightgreen", ⟨144, 238, 144, 255⟩),
  ("transparent", ⟨0, 0, 0, 0⟩)]

/-- The place of a name in the palette, counted from zero, and its color. -/
def named? (name : String) : Option (Nat × Color) :=
  (palette.findIdx? (·.1 == name)).bind fun i => palette[i]?.map fun entry => (i, entry.2)

/-- No name stands twice in the palette. -/
theorem palette_names_nodup : (palette.map (·.1)).Nodup := by decide +kernel

end Color
end StyledText
