import StyledText.Font.Sfnt.Bytes
import StyledText.Text.MacRoman

/-!
# The glyph of a character

A character map gives a glyph for a code. It is read in two formats. The format of segments covers
the codes up to `0xFFFF` by runs, whose glyphs follow each other or are listed; the format of
groups covers all codes by runs with glyphs that follow each other. A code in no run has no glyph.

The runs are in order, and the one of a code is found by halving. How a character is coded depends
on what the map is for: Unicode, the symbols of Windows, or Mac OS Roman.
-/

namespace StyledText
namespace Sfnt

/-- A table from codes to glyphs in a format that can be read. -/
inductive CodeTable where
  | segments (count : Nat) (table : ByteArray)
  | groups (count : Nat) (table : ByteArray)

namespace CodeTable

/-- The segment of a code among those from `low` on and before `high`, given the first and the last
code of each. -/
def findSegment? (first last : Nat → Nat) (code low high : Nat) : Option Nat :=
  if low < high then
    let middle := (low + high) / 2
    if last middle < code then findSegment? first last code (middle + 1) high
    else if code < first middle then findSegment? first last code low middle
    else some middle
  else none
termination_by high - low

/-- The last one of `size` groups from `base` on that does not begin after the code, or the first
one if they all do. -/
def lastGroupFrom (first : Nat → Nat) (code base size : Nat) : Nat :=
  if 1 < size then
    let half := size / 2
    let middle := base + half
    lastGroupFrom first code (if code < first middle then base else middle) (size - half)
  else base
termination_by size

/-- The glyph in a table of segments. Where a segment lists its glyphs, the list is found from the
place of its own entry in 16 bits; a listed glyph is shifted like others, but then it must not
reach the upper half of the glyphs. -/
def segmentGlyph? (count : Nat) (table : ByteArray) (code : Nat) : Option Nat := do
  let lasts := 14
  let firsts := lasts + 2 * count + 2
  let shifts := firsts + 2 * count
  let ranges := shifts + 2 * count
  let at16 (start i : Nat) : Nat := (u16? table (start + 2 * i)).getD 0
  if 0xFFFF < code then none
  else
    let i ← findSegment? (at16 firsts) (at16 lasts) code 0 count
    let shift := at16 shifts i
    let range := at16 ranges i
    if range = 0 then return (code + shift) % 0x10000
    else
      let distance := 2 * (code - at16 firsts i)
      if range = 0xFFFF ∨ 0xFFFF < distance then none
      else
        let listed ← u16? table ((ranges + 2 * i + distance + range) % 0x10000)
        let glyph := (listed + shift) % 0x10000
        if listed = 0 ∨ 0x8000 ≤ glyph then none else return glyph

/-- The glyph in a table of groups. -/
def groupGlyph? (count : Nat) (table : ByteArray) (code : Nat) : Option Nat :=
  let at32 (start i : Nat) : Nat := (u32? table (start + 12 * i)).getD 0
  let i := lastGroupFrom (at32 16) code 0 count
  if i < count ∧ at32 16 i ≤ code ∧ code ≤ at32 20 i then
    let glyph := at32 24 i + (code - at32 16 i)
    if glyph < 0x10000 then some glyph else none
  else none

/-- The glyph of a code. -/
def glyph? : CodeTable → Nat → Option Nat
  | segments count table, code => segmentGlyph? count table code
  | groups count table, code => groupGlyph? count table code

/-- A table of segments, whose four lists of one number for each segment must be complete. -/
def segments? (table : ByteArray) : Option CodeTable := do
  let count := (← u16? table 6) / 2
  if 0 < count ∧ 16 + 8 * count ≤ table.size then return segments count table else none

/-- A table of groups, all of which must be there. -/
def groups? (table : ByteArray) : Option CodeTable := do
  let count ← u32? table 12
  if 16 + 12 * count ≤ table.size then return groups count table else none

/-- The table at the beginning of some data. -/
def ofData? (data : ByteArray) : Option CodeTable := do
  match ← u16? data 0 with
  | 4 => segments? data
  | 12 => groups? data
  | _ => none

end CodeTable

/-- What the codes of a character map stand for. -/
inductive Coding where
  | unicode
  /-- Symbols of Windows; those with codes of one byte may be kept from `0xF000` on. -/
  | symbol
  | macRoman
deriving DecidableEq

/-- A table from characters to glyphs. -/
structure CharacterMap where
  coding : Coding
  codes : CodeTable

namespace CharacterMap

/-- The code of a character in a map of Mac OS Roman. Beyond ASCII only the lower 16 bits of the
character count, and a character that is not in that encoding has the code zero. -/
def macRomanCode (c : Char) : Nat :=
  if c.toNat < 128 then c.toNat else (Text.MacRoman.upperByte? (c.toNat % 0x10000)).getD 0

/-- The glyph of a character. -/
def glyph? (map : CharacterMap) (c : Char) : Option Nat :=
  match map.coding with
  | .unicode => map.codes.glyph? c.toNat
  | .macRoman => map.codes.glyph? (macRomanCode c)
  | .symbol =>
    match map.codes.glyph? c.toNat with
    | some glyph => some glyph
    | none => if c.toNat ≤ 0xFF then map.codes.glyph? (0xF000 + c.toNat) else none

/-- The platforms and encodings of the maps that are understood, the best ones first. -/
def preferences : List ((Nat × Nat) × Coding) := [
  ((3, 0), .symbol), ((3, 10), .unicode), ((0, 6), .unicode), ((0, 4), .unicode),
  ((3, 1), .unicode), ((0, 3), .unicode), ((0, 2), .unicode), ((0, 1), .unicode),
  ((0, 0), .unicode), ((1, 0), .macRoman)]

/-- The platform, the encoding and the codes of an entry of the table of character maps. -/
def entry? (table : ByteArray) (i : Nat) : Option ((Nat × Nat) × CodeTable) := do
  let platform ← u16? table (4 + 8 * i)
  let encoding ← u16? table (6 + 8 * i)
  let offset ← u32? table (8 + 8 * i)
  if platform ≤ 4 then
    return ((platform, encoding), ← CodeTable.ofData? (← range? table offset (table.size - offset)))
  else none

/-- The longest run of entries from the one at `i` on that can be read, and at most `count`. -/
def takeEntries (table : ByteArray) (i : Nat) : Nat → List ((Nat × Nat) × CodeTable)
  | 0 => []
  | count + 1 =>
    match entry? table i with
    | some entry => entry :: takeEntries table (i + 1) count
    | none => []

/-- The best map of the table of character maps, whose list of entries must be complete. -/
def ofTable? (table : ByteArray) : Option CharacterMap := do
  let count ← u16? table 2
  if 4 + 8 * count ≤ table.size then
    let entries := takeEntries table 0 count
    preferences.findSome? fun (wanted, coding) =>
      (entries.find? (·.1 == wanted)).map fun entry => ⟨coding, entry.2⟩
  else none

end CharacterMap
end Sfnt
end StyledText
