import StyledText.Font.Sfnt

/-!
# Plain fonts

What the parser for plain font files gives can be relied on: the advances of characters have 16
bits, and the design units are as many as font files may have.

Results:
1. `Sfnt.parse_of_face?`: a face whose tables can be used is parsed, and its texts are not shaped.
2. `Sfnt.parse_wideFile`, `Sfnt.exists_ofBytes_wideFile`: a font file of such a face.
-/

namespace StyledText
namespace Sfnt

theorem byte?_lt {data : ByteArray} {offset n : Nat} (h : byte? data offset = some n) :
    n < 0x100 := by
  unfold byte? at h
  split at h
  · cases h
    exact UInt8.toNat_lt _
  · cases h

theorem u16?_lt {data : ByteArray} {offset n : Nat} (h : u16? data offset = some n) :
    n < 0x10000 := by
  simp only [u16?, Option.bind_eq_bind, Option.bind_eq_some_iff, Option.pure_def,
    Option.some.injEq] at h
  obtain ⟨high, hasHigh, low, hasLow, rfl⟩ := h
  have := byte?_lt hasHigh
  have := byte?_lt hasLow
  omega

namespace Face

/-- The design units of a face that can be used. -/
theorem unitsPerEm_of_ofTables? {table? : String → Option ByteArray} {face : Face}
    (h : ofTables? table? = some face) : 16 ≤ face.unitsPerEm ∧ face.unitsPerEm ≤ 0x4000 := by
  simp only [ofTables?, Option.bind_eq_bind, Option.bind_eq_some_iff, Option.pure_def] at h
  obtain ⟨head, -, horizontal, -, maxima, -, h⟩ := h
  split at h
  · cases h
  · simp only [Option.bind_eq_some_iff] at h
    obtain ⟨unitsPerEm, -, locationFormat, -, version, -, glyphCount, -, h⟩ := h
    split at h
    · cases h
    · next usable =>
      split at h
      · cases h
      · simp only [Option.bind_eq_some_iff, Option.some.injEq] at h
        obtain ⟨_, -, _, -, _, -, _, -, rfl⟩ := h
        dsimp only
        omega

theorem glyphAdvance_lt {face : Face} (h : face.unitsPerEm ≤ 0x4000) (glyph : Nat) :
    face.glyphAdvance glyph < 0x10000 := by
  unfold glyphAdvance
  split
  · omega
  · next table found =>
    split
    · omega
    · split
      · omega
      · cases read : u16? table (4 * min glyph (face.advanceCount - 1)) with
        | none => exact Nat.zero_lt_succ _
        | some n => exact u16?_lt read

end Face

/-- The tables of a face of a file. -/
def face? (data : ByteArray) (index : Nat) : Option Face :=
  (tables? data index).bind Face.ofTables?

/-- A face whose tables can be used is parsed, and its texts are not shaped. -/
theorem parse_of_face? {data : ByteArray} {index : Nat} {face : Face}
    (h : face? data index = some face) :
    ∃ names, parse data index = some (face.parsed names) ∧
      (face.parsed names).Unshaped face.advance := by
  obtain ⟨table?, found, usable⟩ := Option.bind_eq_some_iff.1 h
  have units := Face.unitsPerEm_of_ofTables? usable
  refine ⟨((table? "name").bind nameRecords?).getD [], ?_, fun _ => rfl,
    fun _ => Face.glyphAdvance_lt units.2 _, Int.ofNat_le.2 units.1, Int.ofNat_le.2 units.2⟩
  rw [parse, found]
  show (Face.ofTables? table?).bind _ = _
  rw [usable]
  rfl

/-! ## A font file -/

/-- Numbers of 16 bits, the high byte first. -/
def words (numbers : List Nat) : ByteArray :=
  ⟨(numbers.flatMap fun n => [UInt8.ofNat (n / 0x100), UInt8.ofNat n]).toArray⟩

/-- A font file of one face with nine glyphs. The letter a moves on by as much as 16 bits allow. -/
def wideFile : ByteArray :=
  words <|
    -- the tags, offsets and lengths of the tables
    [0x1, 0, 6, 0, 0, 0] ++
    [0x636d, 0x6170, 0, 0, 0, 108, 0, 100] ++ [0x6865, 0x6164, 0, 0, 0, 208, 0, 54] ++
    [0x6868, 0x6561, 0, 0, 0, 264, 0, 36] ++ [0x686d, 0x7478, 0, 0, 0, 300, 0, 36] ++
    [0x6d61, 0x7870, 0, 0, 0, 336, 0, 6] ++ [0x6e61, 0x6d65, 0, 0, 0, 344, 0, 80] ++
    -- the segments of the character map
    [0, 1, 3, 1, 0, 12, 4, 88, 0, 18, 0, 0, 0] ++
    [0x20, 0x48, 0x61, 0x62, 0x63, 0x69, 0xe9, 0x4e2d, 0xffff, 0] ++
    [0x20, 0x48, 0x61, 0x62, 0x63, 0x69, 0xe9, 0x4e2d, 0xffff] ++
    [0xffe1, 0xffbd, 0xffa1, 0xffa1, 0xffa1, 0xff9d, 0xff1e, 0xb1db, 1] ++
    List.replicate 9 0 ++
    -- the header, with 1000 design units
    [1, 0, 0, 0, 0, 0, 0x5f0f, 0x3cf5, 0, 1000] ++ List.replicate 14 0 ++ [2, 0, 0, 0] ++
    -- the horizontal header, and the advances each with a bearing
    [1, 0, 800, 0xff38] ++ List.replicate 13 0 ++ [9] ++
    [500, 0, 250, 0, 0xffff, 0, 611, 0, 333, 0, 722, 0, 222, 0, 557, 0, 1000, 0] ++
    -- the count of the glyphs
    [0, 0x5000, 9, 0] ++
    -- two names
    [0, 2, 30, 3, 1, 0x409, 1, 18, 0, 3, 1, 0x409, 6, 32, 18] ++
    "Demo Sans".toList.map Char.toNat ++ "DemoSans-Regular".toList.map Char.toNat

/-- The file has a face whose texts are not shaped. -/
theorem parse_wideFile :
    ∃ face advance, parse wideFile 0 = some face ∧ face.Unshaped advance ∧ advance 'a' = 65535 ∧
      face.metrics = ⟨.ofInt 1000, .ofInt 800, .ofInt (-200), .ofInt 0⟩ := by
  have found : ((face? wideFile 0).map fun face =>
      (face.unitsPerEm, face.ascender, face.descender, face.lineGap, face.advance 'a')) =
        some (1000, 800, -200, 0, 65535) := by
    decide +kernel
  obtain ⟨face, usable, measures⟩ := Option.map_eq_some_iff.1 found
  obtain ⟨names, parsed, unshaped⟩ := parse_of_face? usable
  simp only [Prod.mk.injEq] at measures
  obtain ⟨units, ascender, descender, lineGap, widest⟩ := measures
  refine ⟨_, _, parsed, unshaped, widest, ?_⟩
  simp only [ParsedFace.metrics, Face.parsed, units, ascender, descender, lineGap]
  rfl

/-- The file can be loaded at every size. -/
theorem exists_ofBytes_wideFile (pointSize : Nat) :
    ∃ font, TrueTypeFont.ofBytes parse wideFile 0 pointSize = .ok font := by
  obtain ⟨face, -, parsed, -⟩ := parse_wideFile
  exact ⟨_, by rw [TrueTypeFont.ofBytes, parsed]⟩

end Sfnt
end StyledText
