/-!
# Mac OS Roman

The encoding of one byte a character in which older font names are written. The lower half is
ASCII, but for the signs of four keys in the place of control characters; a table gives the
characters of the upper half.
-/

namespace StyledText
namespace Text
namespace MacRoman

/-- The code points of the bytes from 128 on. -/
def upperHalf : List Nat := [
  0x00C4, 0x00C5, 0x00C7, 0x00C9, 0x00D1, 0x00D6, 0x00DC, 0x00E1,
  0x00E0, 0x00E2, 0x00E4, 0x00E3, 0x00E5, 0x00E7, 0x00E9, 0x00E8,
  0x00EA, 0x00EB, 0x00ED, 0x00EC, 0x00EE, 0x00EF, 0x00F1, 0x00F3,
  0x00F2, 0x00F4, 0x00F6, 0x00F5, 0x00FA, 0x00F9, 0x00FB, 0x00FC,
  0x2020, 0x00B0, 0x00A2, 0x00A3, 0x00A7, 0x2022, 0x00B6, 0x00DF,
  0x00AE, 0x00A9, 0x2122, 0x00B4, 0x00A8, 0x2260, 0x00C6, 0x00D8,
  0x221E, 0x00B1, 0x2264, 0x2265, 0x00A5, 0x00B5, 0x2202, 0x2211,
  0x220F, 0x03C0, 0x222B, 0x00AA, 0x00BA, 0x03A9, 0x00E6, 0x00F8,
  0x00BF, 0x00A1, 0x00AC, 0x221A, 0x0192, 0x2248, 0x2206, 0x00AB,
  0x00BB, 0x2026, 0x00A0, 0x00C0, 0x00C3, 0x00D5, 0x0152, 0x0153,
  0x2013, 0x2014, 0x201C, 0x201D, 0x2018, 0x2019, 0x00F7, 0x25CA,
  0x00FF, 0x0178, 0x2044, 0x20AC, 0x2039, 0x203A, 0xFB01, 0xFB02,
  0x2021, 0x00B7, 0x201A, 0x201E, 0x2030, 0x00C2, 0x00CA, 0x00C1,
  0x00CB, 0x00C8, 0x00CD, 0x00CE, 0x00CF, 0x00CC, 0x00D3, 0x00D4,
  0xF8FF, 0x00D2, 0x00DA, 0x00DB, 0x00D9, 0x0131, 0x02C6, 0x02DC,
  0x00AF, 0x02D8, 0x02D9, 0x02DA, 0x00B8, 0x02DD, 0x02DB, 0x02C7]

/-- The signs of the command, shift, option and control keys. -/
def keySigns : List Nat := [0x2318, 0x21E7, 0x2325, 0x2303]

/-- The character of a byte. The signs of keys are the four bytes from `0x11` on. -/
def char (byte : UInt8) : Char :=
  if 0x11 ≤ byte.toNat ∧ byte.toNat < 0x15 then
    Char.ofNat (keySigns.getD (byte.toNat - 0x11) 0xFFFD)
  else if byte.toNat < 128 then Char.ofNat byte.toNat
  else Char.ofNat (upperHalf.getD (byte.toNat - 128) 0xFFFD)

/-- The byte of the upper half that has a code point. -/
def upperByte? (codePoint : Nat) : Option Nat :=
  (upperHalf.findIdx? (· == codePoint)).map (128 + ·)

/-- The text of bytes. -/
def decode (bytes : List UInt8) : String := String.ofList (bytes.map char)

example : upperHalf.length = 128 := rfl
example : keySigns.length = 4 := rfl
example : upperByte? 0x00FC = some 0x9F := by decide
example : decode [0x41, 0x11] = "A⌘" := by decide +kernel
example : decode [0x47, 0x72, 0x9F, 0x65] = "Gr\u00fce" := by decide +kernel

end MacRoman
end Text
end StyledText
