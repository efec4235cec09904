/-!
# Bytes of a font file

The numbers of a font file are unsigned or two's complement integers, the high byte first. A
number or a range that leaves the data is absent.
-/

namespace StyledText
namespace Sfnt

/-- The byte at an offset. -/
def byte? (data : ByteArray) (offset : Nat) : Option Nat :=
  if h : offset < data.size then some data[offset].toNat else none

/-- The unsigned 16-bit number at an offset. -/
def u16? (data : ByteArray) (offset : Nat) : Option Nat := do
  return (← byte? data offset) * 0x100 + (← byte? data (offset + 1))

/-- The unsigned 32-bit number at an offset. -/
def u32? (data : ByteArray) (offset : Nat) : Option Nat := do
  return (← u16? data offset) * 0x10000 + (← u16? data (offset + 2))

/-- The 16-bit number in two's complement at an offset. -/
def i16? (data : ByteArray) (offset : Nat) : Option Int :=
  (u16? data offset).map fun n => if n < 0x8000 then n else (n : Int) - 0x10000

/-- The range of the given length at an offset. -/
def range? (data : ByteArray) (offset length : Nat) : Option ByteArray :=
  if offset + length ≤ data.size then some (data.extract offset (offset + length)) else none

end Sfnt
end StyledText
