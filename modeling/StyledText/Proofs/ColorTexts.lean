import Mathlib.Data.List.Forall2
import StyledText.Proofs.HexForms

/-!
# Colors and their texts

A color is written as a hexadecimal text or as a JSON object, in both without an alpha of 255.
Either form is read as the color that it was written for. The text may be given with letters in
lower case and with white space around it, the object with its fields in any order and others among
them. Colors have different texts, so that the texts of two colors tell whether what they were read
from means the same.

Results:
1. `Color.spells_toHex`: the text of a color spells the color, in whatever case.
2. `Color.toHex_injective`: no two colors have the same text.
3. `Color.exists_toJson`: the object of a color, and the objects that are read as the color.
4. `Color.roundtrip`: what is read of the texts and the objects of a color, and when two texts mean
   the same color.
-/

namespace StyledText

namespace Json

variable {fields part : List (String × Json)} {key : String}

/-- Neither the order of the fields nor those with other keys matter to what stands under a key. -/
theorem valuesAt_of_perm {keys : List String} (same : (fields.filter (·.1 ∈ keys)).Perm part)
    (known : key ∈ keys) : (valuesAt fields key).Perm (valuesAt part key) := by
  have among : valuesAt (fields.filter (·.1 ∈ keys)) key = valuesAt fields key := by
    rw [valuesAt, List.filter_filter]
    refine congrArg _ (List.filter_congr fun field _ => ?_)
    by_cases equal : field.1 = key
    · simp [equal, known]
    · simp [equal]
  rw [← among]
  exact (same.filter _).map _

/-- Nor does the order of the values under the key matter to the field: two of them are refused. -/
theorem field?_of_perm {α : Type} (same : (valuesAt fields key).Perm (valuesAt part key))
    (absent : Option α) (read : Json → Option α) :
    field? fields key absent read = field? part key absent read := by
  match values : valuesAt part key with
  | [] =>
    rw [values, List.perm_nil] at same
    rw [field?, field?, same, values]
  | [value] =>
    rw [values, List.perm_singleton] at same
    rw [field?, field?, same, values]
  | first :: second :: others =>
    have many : 2 ≤ (valuesAt fields key).length := by simp [same.length_eq, values]
    match values' : valuesAt fields key with
    | [] | [_] => simp [values'] at many
    | _ :: _ :: _ => rw [field?, field?, values, values']

end Json

namespace Color

/-! ## Hexadecimal texts -/

/-- A character is given as it is shown, or in lower case. -/
def Recased (shown given : Char) : Prop := given = shown ∨ given = shown.toLower

instance (shown given : Char) : Decidable (Recased shown given) :=
  inferInstanceAs (Decidable (_ ∨ _))

theorem isHexDigit_of_recased {n : Nat} (small : n < 16) {given : Char}
    (recased : Recased (Nat.digitChar n).toUpper given) : IsHexDigit given n := by
  have table : ∀ n < 16, IsHexDigit (Nat.digitChar n).toUpper n ∧
      IsHexDigit (Nat.digitChar n).toUpper.toLower n := by
    decide +kernel
  rcases recased with rfl | rfl
  · exact (table n small).1
  · exact (table n small).2

/-- The two digits of a channel tell it. -/
theorem exists_digitPair {value : UInt8} {rest given : List Char}
    (recased : List.Forall₂ Recased (channelDigits value ++ rest) given) :
    ∃ high low behind, given = high :: low :: behind ∧ DigitPair high low value ∧
      List.Forall₂ Recased rest behind := by
  have small : value.toNat < 256 := value.toNat_lt
  obtain ⟨high, _, first, recased', rfl⟩ := List.forall₂_cons_left_iff.1 recased
  obtain ⟨low, behind, second, left, rfl⟩ := List.forall₂_cons_left_iff.1 recased'
  refine ⟨high, low, behind, rfl, ⟨value.toNat / 16, value.toNat % 16, ?_, ?_, ?_⟩, left⟩
  · exact isHexDigit_of_recased (by omega) first
  · exact isHexDigit_of_recased (by omega) second
  · omega

/-- The text of a color spells the color, in whatever case its letters are. -/
theorem spells_toHex {c : Color} {given : List Char}
    (recased : List.Forall₂ Recased c.toHex.toList given) :
    ∃ digits, given = '#' :: digits ∧ Spells DigitPair digits c := by
  obtain ⟨red, green, blue, alpha⟩ := c
  rw [toHex, String.toList_ofList, List.append_assoc, List.append_assoc] at recased
  obtain ⟨hash, _, is, channels, rfl⟩ := List.forall₂_cons_left_iff.1 recased
  have hash_eq : hash = '#' := by
    rcases is with rfl | rfl <;> rfl
  subst hash_eq
  obtain ⟨r₁, r₀, _, rfl, tellsRed, channels⟩ := exists_digitPair channels
  obtain ⟨g₁, g₀, _, rfl, tellsGreen, channels⟩ := exists_digitPair channels
  obtain ⟨b₁, b₀, _, rfl, tellsBlue, channels⟩ := exists_digitPair channels
  refine ⟨_, rfl, ?_⟩
  by_cases full : alpha = 255
  · subst full
    cases channels
    exact .six tellsRed tellsGreen tellsBlue
  · have shown : (⟨red, green, blue, alpha⟩ : Color).isOpaque = false := by
      simpa [isOpaque] using full
    rw [shown, ← List.append_nil (channelDigits alpha)] at channels
    obtain ⟨a₁, a₀, _, rfl, tellsAlpha, channels⟩ := exists_digitPair channels
    cases channels
    exact .eight tellsRed tellsGreen tellsBlue tellsAlpha

/-- A text is read as the color that it spells with white space around. -/
theorem ofHex_of_padded {text : String} {digits : List Char} {c : Color}
    (padded : Text.Padded ('#' :: digits) text.toList) (spelled : Spells DigitPair digits c) :
    ofHex text = .ok c := by
  have solid : ∀ d ∈ '#' :: digits, Text.isWhiteSpace d = false := by
    intro d inside
    rcases List.mem_cons.1 inside with rfl | inside
    · decide
    · exact spelled.of_mem (fun _ _ _ pair => ⟨pair.plain.1.1, pair.plain.2.1⟩) d inside
  have trimmed := Text.trim_of_padded padded solid (List.cons_ne_nil _ _)
  exact ofHex_of_trim_iff.2 ⟨digits, trimmed, (spells_digitPair_iff.1 spelled).1⟩

/-- A color is read from its text in whatever case, with white space around. -/
theorem ofHex_of_recased {c : Color} {text : String} {given : List Char}
    (recased : List.Forall₂ Recased c.toHex.toList given) (padded : Text.Padded given text.toList) :
    ofHex text = .ok c := by
  obtain ⟨digits, rfl, spelled⟩ := spells_toHex recased
  exact ofHex_of_padded padded spelled

theorem ofHex_toHex (c : Color) : ofHex c.toHex = .ok c :=
  ofHex_of_recased (List.forall₂_same.2 fun _ _ => .inl rfl) (Text.Padded.refl _)

theorem toHex_injective : Function.Injective toHex := by
  intro c other same
  have read := ofHex_toHex c
  rw [same, ofHex_toHex other] at read
  exact (Except.ok.inj read).symm

/-! ## JSON objects -/

/-- The keys of the channels in an object. -/
def channelKeys : List String := ["r", "g", "b", "a"]

theorem channel?_channelJson (value : UInt8) : channel? (channelJson value) = some value := by
  have small : value.toNat < 256 := value.toNat_lt
  have range : 0 ≤ (value.toNat : Int) ∧ (value.toNat : Int) < (256 : Nat) := by omega
  rw [channel?, channelJson, Json.natBelow?, if_pos range, Int.toNat_natCast]
  simp

/-- What is read of the fields is the same for other fields under other keys, and in any order. -/
theorem ofFields?_of_perm {fields part : List (String × Json)}
    (same : (fields.filter (·.1 ∈ channelKeys)).Perm part) : ofFields? fields = ofFields? part := by
  have found {key : String} (known : key ∈ channelKeys) (absent : Option UInt8) :=
    Json.field?_of_perm (Json.valuesAt_of_perm same known) absent channel?
  rw [ofFields?, found (by decide), found (by decide), found (by decide), found (by decide),
    ofFields?]

/-- The object of a color has an alpha only if that is not 255. Every object with the same channels
is read as the color, in whatever order they are and whatever else is among them. -/
theorem exists_toJson (c : Color) :
    ∃ channels, toJson c = .object channels ∧ ("a" ∈ channels.map (·.1) ↔ c.alpha ≠ 255) ∧
      ∀ fields : List (String × Json), (fields.filter (·.1 ∈ channelKeys)).Perm channels →
        ofJson (.object fields) = .ok c := by
  refine ⟨_, rfl, by simp [isOpaque], fun fields same => ?_⟩
  rw [ofJson, ofFields?_of_perm same]
  by_cases full : c.isOpaque
  · have full' : c.alpha = 255 := by simpa [isOpaque] using full
    simp [full, ofFields?, Json.field?, Json.valuesAt, channel?_channelJson, ← full']
  · simp [full, ofFields?, Json.field?, Json.valuesAt, channel?_channelJson]

/-! ## Round trips -/

/-- A color is read from its text in whatever case, with white space around, also in a JSON string.
It is read from its object, which has an alpha only if that is not 255, in whatever order and with
other keys too. Two texts that are read mean the same color if and only if the colors that they mean
have one text. -/
theorem roundtrip (c : Color) :
    (∀ (text : String) (given : List Char), List.Forall₂ Recased c.toHex.toList given →
      Text.Padded given text.toList → ofHex text = .ok c ∧ ofJson (.string text) = .ok c) ∧
    (∃ channels, toJson c = .object channels ∧ ("a" ∈ channels.map (·.1) ↔ c.alpha ≠ 255) ∧
      ∀ fields : List (String × Json), (fields.filter (·.1 ∈ channelKeys)).Perm channels →
        ofJson (.object fields) = .ok c) ∧
    ∀ (text text' : String) (other : Color), ofHex text = .ok c → ofHex text' = .ok other →
      (ofHex text = ofHex text' ↔ c.toHex = other.toHex) := by
  refine ⟨fun text given recased padded => ?_, exists_toJson c, ?_⟩
  · have read := ofHex_of_recased recased padded
    exact ⟨read, ofJson_string_iff.2 read⟩
  · intro text text' other read read'
    rw [read, read', Except.ok.injEq, toHex_injective.eq_iff]

/-- The alpha is in front in the object, and a name is behind it. -/
theorem roundtrip_translucent :
    ofHex " #0102aB04\n" = .ok ⟨1, 2, 171, 4⟩ ∧
    ofJson (.string " #0102aB04\n") = .ok ⟨1, 2, 171, 4⟩ ∧
    ofJson (.object [("a", .integer 4), ("name", .string "haze"), ("r", .integer 1),
      ("g", .integer 2), ("b", .integer 171)]) = .ok ⟨1, 2, 171, 4⟩ ∧
    (ofHex " #0102aB04\n" = ofHex "#fff" ↔ toHex ⟨1, 2, 171, 4⟩ = toHex white) := by
  obtain ⟨texts, ⟨channels, written, -, objects⟩, alike⟩ := roundtrip ⟨1, 2, 171, 4⟩
  have recased : List.Forall₂ Recased (toHex ⟨1, 2, 171, 4⟩).toList "#0102aB04".toList := by
    decide +kernel
  have padded : Text.Padded "#0102aB04".toList " #0102aB04\n".toList :=
    ⟨[' '], ['\n'], by decide, List.forall_mem_singleton.2 (by decide),
      List.forall_mem_singleton.2 (by decide)⟩
  have rotated : ([("a", .integer 4), ("name", .string "haze"), ("r", .integer 1),
      ("g", .integer 2), ("b", .integer 171)].filter
      fun field : String × Json => field.1 ∈ channelKeys).Perm channels := by
    cases written
    exact @List.perm_append_comm _ [_] [_, _, _]
  obtain ⟨read, read'⟩ := texts _ _ recased padded
  exact ⟨read, read', objects _ rotated, alike _ "#fff" white read rfl⟩

end Color
end StyledText
