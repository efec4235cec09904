import StyledText.Color.Json
import StyledText.Proofs.Steps

/-!
# The forms of hexadecimal colors

A color is written with three, six or eight hexadecimal digits behind a hash sign, and white space
around that does not matter. Every text of these forms is read as the color that it tells. But each
channel of the two longer forms is read as a numeral, and a numeral may begin with a plus sign: so a
plus sign and one digit are a channel too. That is the only way in which more is read than these
forms.

Results:
1. `Color.readChannel_eq_ok_iff`: the pairs of characters that are read as a channel.
2. `Color.ofHex_of_trim_iff`: the texts that are read, and the color that each of them is read as.
3. `Color.ofHex_eq_ok_iff`: that, which of these texts are of digits only, and that strings in JSON
   are read alike.
-/

namespace StyledText

/-! ## Hexadecimal digits -/

/-- The hexadecimal digits, the letters in both cases. -/
def hexDigits : List Char := "0123456789abcdef".toList ++ "0123456789ABCDEF".toList

/-- The character is the hexadecimal digit of a number, a letter being of either case. -/
def IsHexDigit (c : Char) (n : Nat) : Prop :=
  "0123456789abcdef".toList[n]? = some c ∨ "0123456789ABCDEF".toList[n]? = some c

instance (c : Char) (n : Nat) : Decidable (IsHexDigit c n) := inferInstanceAs (Decidable (_ ∨ _))

namespace IsHexDigit

variable {c : Char} {n : Nat}

theorem lt (h : IsHexDigit c n) : n < 16 := by
  rcases h with lower | upper
  · exact (List.getElem?_eq_some_iff.1 lower).1
  · exact (List.getElem?_eq_some_iff.1 upper).1

theorem mem_hexDigits (h : IsHexDigit c n) : c ∈ hexDigits := by
  rcases h with lower | upper
  · exact List.mem_append_left _ (List.mem_of_getElem? lower)
  · exact List.mem_append_right _ (List.mem_of_getElem? upper)

/-- No digit is white space, a plus sign or outside ASCII. -/
theorem plain (h : IsHexDigit c n) :
    Text.isWhiteSpace c = false ∧ c ≠ '+' ∧ c.toNat < 128 := by
  have table : hexDigits.all fun c =>
      Text.isWhiteSpace c = false ∧ c ≠ '+' ∧ c.toNat < 128 := by
    decide +kernel
  exact of_decide_eq_true (List.all_eq_true.1 table c h.mem_hexDigits)

end IsHexDigit

namespace Numeral

theorem toNat_lt_of_digit? {base d : Nat} {c : Char} (found : digit? base c = some d) :
    c.toNat < 128 := by
  rw [digit?, Option.filter_eq_some_iff] at found
  have value := found.1
  unfold digitValue? at value
  split at value
  · next range => exact Nat.lt_of_le_of_lt range.2 (by decide)
  · split at value
    · next range => exact Nat.lt_of_le_of_lt range.2 (by decide)
    · split at value
      · next range => exact Nat.lt_of_le_of_lt range.2 (by decide)
      · cases value

theorem digit?_eq_some_iff {c : Char} {n : Nat} : digit? 16 c = some n ↔ IsHexDigit c n := by
  constructor
  · intro found
    have table : ∀ m < 128, ∀ n < 16, digit? 16 (Char.ofNat m) = some n →
        IsHexDigit (Char.ofNat m) n := by
      decide +kernel
    have read := table c.toNat (toNat_lt_of_digit? found) n (digit?_lt found)
    rw [Char.ofNat_toNat] at read
    exact read found
  · intro h
    have table : ∀ n < 16, hexDigits.all fun c => IsHexDigit c n → digit? 16 c = some n := by
      decide +kernel
    exact of_decide_eq_true (List.all_eq_true.1 (table n h.lt) c h.mem_hexDigits) h

/-- A numeral of two characters has two digits, or a plus sign and one digit. -/
theorem read_pair_eq_ok_iff {high low : Char} {n : Nat} :
    read 16 256 [high, low] = .ok n ↔
      (∃ h l, IsHexDigit high h ∧ IsHexDigit low l ∧ n = 16 * h + l) ∨
        high = '+' ∧ IsHexDigit low n := by
  have one (value : Nat) : digits 16 256 value [low] = .ok n ↔
      ∃ l, IsHexDigit low l ∧ value * 16 + l < 256 ∧ value * 16 + l = n := by
    simp only [digits_cons_eq_ok_iff, digits_nil, digit?_eq_some_iff, Except.ok.injEq]
  by_cases signed : high = '+'
  · subst signed
    have read : read 16 256 ['+', low] = digits 16 256 0 [low] := rfl
    rw [read, one]
    constructor
    · rintro ⟨l, digit, -, rfl⟩
      exact .inr ⟨rfl, by simpa using digit⟩
    · rintro (⟨h, _, digit, -⟩ | ⟨-, digit⟩)
      · exact absurd rfl digit.plain.2.1
      · have small := digit.lt
        exact ⟨n, digit, by omega, by omega⟩
  · have read : read 16 256 [high, low] = digits 16 256 0 [high, low] := by
      unfold Numeral.read
      split
      · next none => cases none
      · next plus => cases plus; exact absurd rfl signed
      · rfl
    rw [read, digits_cons_eq_ok_iff]
    simp only [one, digit?_eq_some_iff]
    constructor
    · rintro ⟨h, digit, -, l, digit', -, rfl⟩
      exact .inl ⟨h, l, digit, digit', by omega⟩
    · rintro (⟨h, l, digit, digit', rfl⟩ | ⟨plus, -⟩)
      · have small := digit.lt
        have small' := digit'.lt
        exact ⟨h, digit, by omega, l, digit', by omega, by omega⟩
      · exact absurd plus signed

theorem read_pair_lt {high low : Char} {n : Nat} (read : read 16 256 [high, low] = .ok n) :
    n < 256 := by
  rcases read_pair_eq_ok_iff.1 read with ⟨h, l, digit, digit', rfl⟩ | ⟨-, digit⟩
  · have small := digit.lt
    have small' := digit'.lt
    omega
  · have small := digit.lt
    omega

end Numeral

namespace Color

/-! ## Channels -/

/-- Two digits tell a channel, the first one by sixteen times its value. -/
def DigitPair (high low : Char) (value : UInt8) : Prop :=
  ∃ h l, IsHexDigit high h ∧ IsHexDigit low l ∧ value.toNat = 16 * h + l

/-- Two digits tell a channel, and so do a plus sign and one digit. -/
def SignedPair (high low : Char) (value : UInt8) : Prop :=
  DigitPair high low value ∨ high = '+' ∧ IsHexDigit low value.toNat

theorem readChannel_eq_ok_iff {channel : Channel} {high low : Char} {value : UInt8} :
    readChannel channel high low = .ok value ↔ SignedPair high low value := by
  have told : SignedPair high low value ↔ Numeral.read 16 256 [high, low] = .ok value.toNat :=
    Numeral.read_pair_eq_ok_iff.symm
  rw [told, readChannel]
  cases read : Numeral.read 16 256 [high, low] with
  | error cause => simp
  | ok n =>
    simp only [Except.ok.injEq]
    constructor
    · rintro rfl
      exact (UInt8.toNat_ofNat_of_lt' (Numeral.read_pair_lt read)).symm
    · rintro rfl
      exact UInt8.ofNat_toNat

/-- What is done with a channel is done with the value that is read. -/
theorem readChannel_bind_eq_ok_iff {channel : Channel} {high low : Char}
    {next : UInt8 → Except HexError Color} {color : Color} :
    (readChannel channel high low >>= next) = .ok color ↔
      ∃ value, SignedPair high low value ∧ next value = .ok color := by
  have told (value : UInt8) : SignedPair high low value ↔ readChannel channel high low = .ok value :=
    readChannel_eq_ok_iff.symm
  simp only [told]
  exact bind_eq_ok_iff

/-! ## Colors -/

/-- What the characters behind a hash sign spell, by the pairs that tell a channel. One digit for
each of three channels stands for two of itself, and a color without an alpha is opaque. -/
inductive Spells (pair : Char → Char → UInt8 → Prop) : List Char → Color → Prop
  | three {r g b : Char} {red green blue : UInt8} :
      pair r r red → pair g g green → pair b b blue →
      Spells pair [r, g, b] ⟨red, green, blue, 255⟩
  | six {r₁ r₀ g₁ g₀ b₁ b₀ : Char} {red green blue : UInt8} :
      pair r₁ r₀ red → pair g₁ g₀ green → pair b₁ b₀ blue →
      Spells pair [r₁, r₀, g₁, g₀, b₁, b₀] ⟨red, green, blue, 255⟩
  | eight {r₁ r₀ g₁ g₀ b₁ b₀ a₁ a₀ : Char} {red green blue alpha : UInt8} :
      pair r₁ r₀ red → pair g₁ g₀ green → pair b₁ b₀ blue → pair a₁ a₀ alpha →
      Spells pair [r₁, r₀, g₁, g₀, b₁, b₀, a₁, a₀] ⟨red, green, blue, alpha⟩

namespace Spells

variable {pair pair' : Char → Char → UInt8 → Prop} {digits : List Char} {color : Color}

/-- What holds of the characters of every pair holds of all characters. -/
theorem of_mem {P : Char → Prop} (h : Spells pair digits color)
    (both : ∀ high low value, pair high low value → P high ∧ P low) : ∀ c ∈ digits, P c := by
  cases h with
  | three red green blue =>
    simp [both _ _ _ red, both _ _ _ green, both _ _ _ blue]
  | six red green blue =>
    simp [both _ _ _ red, both _ _ _ green, both _ _ _ blue]
  | eight red green blue alpha =>
    simp [both _ _ _ red, both _ _ _ green, both _ _ _ blue, both _ _ _ alpha]

/-- Other pairs spell the same color, if they tell the same channels of the characters. -/
theorem imp (h : Spells pair digits color)
    (told : ∀ high ∈ digits, ∀ low value, pair high low value → pair' high low value) :
    Spells pair' digits color := by
  cases h with
  | three red green blue =>
    exact .three (told _ (by simp) _ _ red) (told _ (by simp) _ _ green) (told _ (by simp) _ _ blue)
  | six red green blue =>
    exact .six (told _ (by simp) _ _ red) (told _ (by simp) _ _ green) (told _ (by simp) _ _ blue)
  | eight red green blue alpha =>
    exact .eight (told _ (by simp) _ _ red) (told _ (by simp) _ _ green)
      (told _ (by simp) _ _ blue) (told _ (by simp) _ _ alpha)

end Spells

theorem readDigits_eq_ok_iff {digits : List Char} {color : Color} :
    readDigits digits = .ok color ↔ Spells SignedPair digits color := by
  constructor
  · intro read
    unfold readDigits at read
    split at read
    · obtain ⟨_, red, read⟩ := readChannel_bind_eq_ok_iff.1 read
      obtain ⟨_, green, read⟩ := readChannel_bind_eq_ok_iff.1 read
      obtain ⟨_, blue, read⟩ := readChannel_bind_eq_ok_iff.1 read
      cases read
      exact .three red green blue
    · obtain ⟨_, red, read⟩ := readChannel_bind_eq_ok_iff.1 read
      obtain ⟨_, green, read⟩ := readChannel_bind_eq_ok_iff.1 read
      obtain ⟨_, blue, read⟩ := readChannel_bind_eq_ok_iff.1 read
      cases read
      exact .six red green blue
    · obtain ⟨_, red, read⟩ := readChannel_bind_eq_ok_iff.1 read
      obtain ⟨_, green, read⟩ := readChannel_bind_eq_ok_iff.1 read
      obtain ⟨_, blue, read⟩ := readChannel_bind_eq_ok_iff.1 read
      obtain ⟨_, alpha, read⟩ := readChannel_bind_eq_ok_iff.1 read
      cases read
      exact .eight red green blue alpha
    · cases read
  · intro spelled
    cases spelled with
    | three red green blue =>
      exact readChannel_bind_eq_ok_iff.2 ⟨_, red, readChannel_bind_eq_ok_iff.2
        ⟨_, green, readChannel_bind_eq_ok_iff.2 ⟨_, blue, rfl⟩⟩⟩
    | six red green blue =>
      exact readChannel_bind_eq_ok_iff.2 ⟨_, red, readChannel_bind_eq_ok_iff.2
        ⟨_, green, readChannel_bind_eq_ok_iff.2 ⟨_, blue, rfl⟩⟩⟩
    | eight red green blue alpha =>
      exact readChannel_bind_eq_ok_iff.2 ⟨_, red, readChannel_bind_eq_ok_iff.2
        ⟨_, green, readChannel_bind_eq_ok_iff.2 ⟨_, blue, readChannel_bind_eq_ok_iff.2
          ⟨_, alpha, rfl⟩⟩⟩⟩

/-! ## Texts -/

theorem DigitPair.plain {high low : Char} {value : UInt8} (h : DigitPair high low value) :
    (Text.isWhiteSpace high = false ∧ high ≠ '+' ∧ high.toNat < 128) ∧
      Text.isWhiteSpace low = false ∧ low ≠ '+' ∧ low.toNat < 128 := by
  obtain ⟨h, l, digit, digit', -⟩ := h
  exact ⟨digit.plain, digit'.plain⟩

theorem SignedPair.plain {high low : Char} {value : UInt8} (h : SignedPair high low value) :
    (Text.isWhiteSpace high = false ∧ high.toNat < 128) ∧
      Text.isWhiteSpace low = false ∧ low.toNat < 128 := by
  rcases h with pair | ⟨rfl, digit⟩
  · obtain ⟨⟨solid, -, ascii⟩, solid', -, ascii'⟩ := pair.plain
    exact ⟨⟨solid, ascii⟩, solid', ascii'⟩
  · obtain ⟨solid, -, ascii⟩ := digit.plain
    exact ⟨by decide, solid, ascii⟩

/-- A text is read if a hash sign and the spelling of a color are all that is left of it without
the white space at its ends. -/
theorem ofHex_of_trim_iff {text : String} {color : Color} :
    ofHex text = .ok color ↔
      ∃ digits, Text.trim text.toList = '#' :: digits ∧ Spells SignedPair digits color := by
  unfold ofHex
  constructor
  · intro read
    dsimp only at read
    split at read
    · next digits trimmed =>
      split at read
      · exact ⟨digits, trimmed, readDigits_eq_ok_iff.1 read⟩
      · cases read
    · cases read
  · rintro ⟨digits, trimmed, spelled⟩
    have ascii : digits.all (·.toNat < 128) = true := by
      rw [List.all_eq_true]
      intro c inside
      exact decide_eq_true (spelled.of_mem (fun _ _ _ pair => ⟨pair.plain.1.2, pair.plain.2.2⟩) c
        inside)
    simp only [trimmed, ascii]
    exact readDigits_eq_ok_iff.2 spelled

theorem ofJson_string_iff {text : String} {color : Color} :
    ofJson (.string text) = .ok color ↔ ofHex text = .ok color := by
  rw [ofJson]
  cases ofHex text <;> simp

/-- Pairs of digits are left if there is no plus sign. -/
theorem spells_digitPair_iff {digits : List Char} {color : Color} :
    Spells DigitPair digits color ↔ Spells SignedPair digits color ∧ '+' ∉ digits := by
  constructor
  · intro spelled
    refine ⟨spelled.imp fun _ _ _ _ pair => .inl pair, fun plus => ?_⟩
    have unsigned := spelled.of_mem fun _ _ _ pair => ⟨pair.plain.1.2.1, pair.plain.2.2.1⟩
    exact absurd rfl (unsigned '+' plus)
  · rintro ⟨spelled, unsigned⟩
    refine spelled.imp ?_
    rintro high inside low value (pair | ⟨rfl, -⟩)
    · exact pair
    · exact absurd inside unsigned

/-- A plus sign in a text is one in what is left without the white space. -/
theorem plus_mem_iff {text : List Char} {core : List Char} (trimmed : Text.trim text = core) :
    '+' ∈ text ↔ '+' ∈ core := by
  obtain ⟨front, back, parts, blank, blank'⟩ := Text.padded_trim text
  have solid : Text.isWhiteSpace '+' = false := by decide
  have absent : '+' ∉ front := fun inside => by
    rw [blank _ inside] at solid
    cases solid
  have absent' : '+' ∉ back := fun inside => by
    rw [blank' _ inside] at solid
    cases solid
  rw [parts, trimmed]
  simp [absent, absent']

/-- A text is read as a color if and only if, without the white space at its ends, it is a hash sign
and three, six or eight characters that spell the color, each pair of them two hexadecimal digits or
a plus sign and one. A string in JSON is read alike. Of hexadecimal digits only are exactly those of
the texts that have no plus sign. -/
theorem ofHex_eq_ok_iff (text : String) (color : Color) :
    (ofHex text = .ok color ↔
      ∃ digits, Text.trim text.toList = '#' :: digits ∧ Spells SignedPair digits color) ∧
    (ofJson (.string text) = .ok color ↔ ofHex text = .ok color) ∧
    (ofHex text = .ok color ∧ '+' ∉ text.toList ↔
      ∃ digits, Text.trim text.toList = '#' :: digits ∧ Spells DigitPair digits color) := by
  refine ⟨ofHex_of_trim_iff, ofJson_string_iff, ?_⟩
  rw [ofHex_of_trim_iff]
  constructor
  · rintro ⟨⟨digits, trimmed, spelled⟩, unsigned⟩
    refine ⟨digits, trimmed, spells_digitPair_iff.2 ⟨spelled, fun plus => unsigned ?_⟩⟩
    exact (plus_mem_iff trimmed).2 (List.mem_cons_of_mem _ plus)
  · rintro ⟨digits, trimmed, spelled⟩
    obtain ⟨spelled, unsigned⟩ := spells_digitPair_iff.1 spelled
    refine ⟨⟨digits, trimmed, spelled⟩, fun plus => ?_⟩
    rcases List.mem_cons.1 ((plus_mem_iff trimmed).1 plus) with hash | inside
    · exact absurd hash (by decide)
    · exact unsigned inside

/-- A text that is no color of hexadecimal digits, but is read as one. -/
theorem ofHex_eq_ok_iff_signed :
    ofHex "#+1+2+3" = .ok ⟨1, 2, 3, 255⟩ ∧ ofJson (.string "#+1+2+3") = .ok ⟨1, 2, 3, 255⟩ ∧
      ¬∃ digits, Text.trim "#+1+2+3".toList = '#' :: digits ∧
        Spells DigitPair digits ⟨1, 2, 3, 255⟩ := by
  obtain ⟨-, json, unsigned⟩ := ofHex_eq_ok_iff "#+1+2+3" ⟨1, 2, 3, 255⟩
  refine ⟨rfl, json.2 rfl, fun spelled => ?_⟩
  exact (unsigned.2 spelled).2 (by decide)

end Color
end StyledText
