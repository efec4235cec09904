/-!
# UTF-16

Texts of 16-bit code units. Two surrogates in order stand for one character; a surrogate that is
not in such a pair makes a text invalid.
-/

namespace StyledText
namespace Text
namespace Utf16

/-- The unit is the first half of a pair. -/
def isHigh (unit : Nat) : Bool := 0xD800 ≤ unit && unit < 0xDC00

/-- The unit is the second half of a pair. -/
def isLow (unit : Nat) : Bool := 0xDC00 ≤ unit && unit < 0xE000

/-- The characters of code units. -/
def chars? : List Nat → Option (List Char)
  | [] => some []
  | [unit] => if isHigh unit || isLow unit then none else some [Char.ofNat unit]
  | first :: second :: rest =>
    if isHigh first then
      if isLow second then
        (chars? rest).map
          (Char.ofNat (0x10000 + (first - 0xD800) * 0x400 + (second - 0xDC00)) :: ·)
      else none
    else if isLow first then none
    else (chars? (second :: rest)).map (Char.ofNat first :: ·)

/-- The code units of bytes, the high byte of each coming first. A byte left over at the end is
passed over. -/
def unitsOfBytes : List UInt8 → List Nat
  | high :: low :: rest => (high.toNat * 256 + low.toNat) :: unitsOfBytes rest
  | _ => []

/-- The text of bytes, if it is valid. -/
def decode? (bytes : List UInt8) : Option String :=
  (chars? (unitsOfBytes bytes)).map String.ofList

example : decode? [0x00, 0x41, 0xD8, 0x3D, 0xDE, 0x00, 0x42] = some "A😀" := by decide +kernel
example : decode? [0xD8, 0x3D, 0x00, 0x41] = none := by decide +kernel

end Utf16
end Text
end StyledText
