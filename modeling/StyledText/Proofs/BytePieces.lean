import StyledText.Proofs.Grammar

/-!
# Bytes of a text

A text is kept in UTF-8, and a program cuts it at byte offsets, compares bytes and looks for them.
That is all right where an offset is between two characters. It always is where the bytes of one
text occur in another: a byte that begins a character never stands inside one. So for bytes and for
characters, a text begins with the same patterns, and a pattern occurs first at the same place.

Results:
1. `Text.slice?_append`: the piece between two offsets that are between characters.
2. `Text.exists_append_of_bytes`: bytes of a pattern are an occurrence of its characters.
3. `Text.begins_iff`, `Text.find?_eq_some_iff`: what the tests on bytes say about characters.
-/

namespace StyledText
namespace Text

/-- The bytes of a text. -/
def bytes (text : String) : List UInt8 := text.toByteArray.data.toList

/-- The offset is at the end of the text or at a byte that begins a character. -/
def isBoundary (text : String) (offset : Nat) : Bool := (⟨offset⟩ : String.Pos.Raw).isValid text

/-- The text from one offset to another, unless one of them is inside a character or what is between
them is no text. -/
def slice? (text : String) (start stop : Nat) : Option String :=
  if start ≤ stop ∧ isBoundary text start ∧ isBoundary text stop then
    String.fromUTF8? (text.toByteArray.extract start stop)
  else none

/-- The bytes of the text begin with those of the pattern. -/
def begins (pattern text : String) : Bool := (bytes pattern).isPrefixOf (bytes text)

/-- The least offset at which the bytes of the pattern stand in the text. -/
def find? (pattern text : String) : Option Nat :=
  (List.range (text.utf8ByteSize + 1)).find? fun offset =>
    (bytes pattern).isPrefixOf ((bytes text).drop offset)

/-! ## Bytes -/

theorem bytes_append (s t : String) : bytes (s ++ t) = bytes s ++ bytes t := by
  simp only [bytes, String.toByteArray_append, ByteArray.data_append, Array.toList_append]

theorem length_bytes (s : String) : (bytes s).length = s.utf8ByteSize := by
  rw [bytes, Array.length_toList]
  exact String.size_toByteArray

theorem eq_of_bytes {s t : String} (h : bytes s = bytes t) : s = t := by
  rw [← String.toByteArray_inj]
  exact ByteArray.ext (Array.toList_inj.1 h)

theorem eq_append_of_toList {front text : String} {back : List Char}
    (h : text.toList = front.toList ++ back) : text = front ++ String.ofList back := by
  rw [← String.toList_inj, String.toList_append, String.toList_ofList, h]

/-- Texts with bytes that begin alike begin with the same characters. -/
theorem exists_append_of_isPrefix {pattern text : String} (h : bytes pattern <+: bytes text) :
    ∃ back, text = pattern ++ back := by
  obtain ⟨behind, split⟩ := h
  have encoded : pattern.toList.utf8Encode ++ behind.toByteArray = text.toList.utf8Encode := by
    rw [String.utf8Encode_toList, String.utf8Encode_toList]
    refine ByteArray.ext (Array.toList_inj.1 ?_)
    rw [ByteArray.data_append, Array.toList_append, List.data_toByteArray, List.toList_toArray]
    exact split
  obtain ⟨back, chars⟩ := List.isPrefix_of_utf8Encode_append_eq_utf8Encode _ encoded
  exact ⟨String.ofList back, eq_append_of_toList chars.symm⟩

theorem utf8Length_toList (s : String) : utf8Length s.toList = s.utf8ByteSize := by
  rw [utf8Length_eq, String.ofList_toList]

/-! ## Boundaries -/

theorem isBoundary_iff {text : String} {offset : Nat} :
    isBoundary text offset = true ↔
      ∃ front back, text = front ++ back ∧ front.utf8ByteSize = offset := by
  rw [isBoundary, String.Pos.Raw.isValid_eq_true_iff, String.Pos.Raw.isValid_iff_exists_append]
  constructor
  · rintro ⟨front, back, split, place⟩
    exact ⟨front, back, split, congrArg String.Pos.Raw.byteIdx place.symm⟩
  · rintro ⟨front, back, split, rfl⟩
    exact ⟨front, back, split, rfl⟩

theorem slice?_append (front piece back : String) :
    slice? (front ++ piece ++ back) front.utf8ByteSize (front ++ piece).utf8ByteSize =
      some piece := by
  have start : isBoundary (front ++ piece ++ back) front.utf8ByteSize = true :=
    isBoundary_iff.2 ⟨front, piece ++ back, String.append_assoc, rfl⟩
  have stop : isBoundary (front ++ piece ++ back) (front ++ piece).utf8ByteSize = true :=
    isBoundary_iff.2 ⟨front ++ piece, back, rfl, rfl⟩
  have le : front.utf8ByteSize ≤ (front ++ piece).utf8ByteSize := by
    rw [String.utf8ByteSize_append]
    exact Nat.le_add_right ..
  have cut : (front ++ piece ++ back).toByteArray.extract front.utf8ByteSize
      (front ++ piece).utf8ByteSize = piece.toByteArray := by
    rw [String.toByteArray_append, ← String.size_toByteArray, ← String.size_toByteArray,
      ByteArray.extract_append_size_left, String.toByteArray_append]
    exact ByteArray.extract_append_eq_right rfl ByteArray.size_append
  rw [slice?, if_pos ⟨le, start, stop⟩, cut, String.fromUTF8?, dif_pos piece.isValidUTF8]
  rfl

theorem toByteArray_getElem {text : String} {before rest : List UInt8} {b : UInt8}
    (h : bytes text = before ++ b :: rest) (inside : before.length < text.toByteArray.size) :
    text.toByteArray[before.length] = b := by
  have here : (bytes text)[before.length]? = some b := by
    rw [h, List.getElem?_append_right le_rfl, Nat.sub_self, List.getElem?_cons_zero]
  rw [bytes, Array.getElem?_toList, Array.getElem?_eq_some_iff] at here
  obtain ⟨_, here⟩ := here
  rw [ByteArray.getElem_eq_getElem_data, here]

/-- An offset is a boundary if the bytes of a text that is not empty stand there. -/
theorem isBoundary_of_bytes {pattern text : String} (ne_empty : pattern ≠ "")
    {before behind : List UInt8} (occurs : bytes text = before ++ (bytes pattern ++ behind)) :
    isBoundary text before.length = true := by
  cases first : bytes pattern with
  | nil => exact absurd (eq_of_bytes first) ne_empty
  | cons b rest =>
    rw [first] at occurs
    have size : text.toByteArray.size = (bytes text).length := by
      rw [length_bytes, String.size_toByteArray]
    have inside : before.length < text.toByteArray.size := by
      rw [size, occurs, List.length_append]
      exact Nat.lt_add_of_pos_right (Nat.succ_pos _)
    have nonempty : 0 < pattern.toByteArray.size := by
      rw [String.size_toByteArray, ← length_bytes, first]
      exact Nat.succ_pos _
    have split : bytes pattern = [] ++ b :: rest := first
    have head : pattern.toByteArray[0] = b := toByteArray_getElem split nonempty
    have starts : b.IsUTF8FirstByte :=
      head ▸ pattern.isValidUTF8.isUTF8FirstByte_getElem_zero nonempty
    rw [isBoundary, String.Pos.Raw.isValid_eq_true_iff, String.Pos.Raw.isValid_iff_isUTF8FirstByte]
    refine .inr ⟨inside, ?_⟩
    rw [String.getUTF8Byte]
    rwa [toByteArray_getElem occurs inside]

/-! ## Patterns -/

/-- Where the bytes of a text that is not empty stand in another one, its characters do. The first
of these bytes begins a character, so no character reaches over it. -/
theorem exists_append_of_bytes {pattern text : String} (ne_empty : pattern ≠ "")
    {before behind : List UInt8} (occurs : bytes text = before ++ (bytes pattern ++ behind)) :
    ∃ front back, text = front ++ pattern ++ back ∧ front.utf8ByteSize = before.length := by
  obtain ⟨front, rest, rfl, place⟩ := isBoundary_iff.1 (isBoundary_of_bytes ne_empty occurs)
  rw [bytes_append] at occurs
  have length : (bytes front).length = before.length := by rw [length_bytes, place]
  obtain ⟨-, tail⟩ := List.append_inj occurs length
  obtain ⟨back, rfl⟩ := exists_append_of_isPrefix ⟨behind, tail.symm⟩
  exact ⟨front, back, String.append_assoc.symm, place⟩

/-- A text begins with the bytes of a pattern exactly if it begins with its characters. -/
theorem begins_iff {pattern text : String} :
    begins pattern text = true ↔ pattern.toList <+: text.toList := by
  rw [begins, List.isPrefixOf_iff_prefix]
  constructor
  · intro first
    obtain ⟨back, rfl⟩ := exists_append_of_isPrefix first
    rw [String.toList_append]
    exact List.prefix_append _ _
  · rintro ⟨back, split⟩
    obtain rfl := eq_append_of_toList split.symm
    rw [bytes_append]
    exact List.prefix_append _ _

/-- The bytes of a pattern stand at an offset exactly if its characters stand behind a text of as
many bytes. -/
theorem isPrefixOf_drop_iff {pattern text : String} (ne_empty : pattern ≠ "") {offset : Nat} :
    (bytes pattern).isPrefixOf ((bytes text).drop offset) = true ↔
      ∃ before behind, text.toList = before ++ pattern.toList ++ behind ∧
        utf8Length before = offset := by
  rw [List.isPrefixOf_iff_prefix]
  constructor
  · rintro ⟨behind, split⟩
    have occurs : bytes text = (bytes text).take offset ++ (bytes pattern ++ behind) := by
      rw [split, List.take_append_drop]
    obtain ⟨front, back, rfl, place⟩ := exists_append_of_bytes ne_empty occurs
    refine ⟨front.toList, back.toList, ?_, ?_⟩
    · rw [String.toList_append, String.toList_append]
    · rw [utf8Length_toList, place, List.length_take]
      -- There are bytes behind the offset, so it is not behind the end.
      refine Nat.min_eq_left (Nat.le_of_lt (Nat.lt_of_not_le fun beyond => ne_empty ?_))
      rw [List.drop_eq_nil_of_le beyond, List.append_eq_nil_iff] at split
      exact eq_of_bytes split.1
  · rintro ⟨before, behind, occurs, rfl⟩
    obtain rfl : text = String.ofList before ++ pattern ++ String.ofList behind := by
      rw [← String.toList_inj, occurs, String.toList_append, String.toList_append,
        String.toList_ofList, String.toList_ofList]
    have length : (bytes (String.ofList before)).length = utf8Length before := by
      rw [length_bytes, utf8Length_eq]
    rw [bytes_append, bytes_append, List.append_assoc, ← length, List.drop_left]
    exact List.prefix_append _ _

/-- Of two texts with which a third one begins, the shorter one has fewer bytes. -/
theorem utf8Length_lt_iff {first second text : List Char} (h : first <+: text)
    (h' : second <+: text) :
    utf8Length first < utf8Length second ↔ first.length < second.length := by
  rcases Nat.lt_or_ge first.length second.length with shorter | longer
  · obtain ⟨more, rfl⟩ := List.prefix_of_prefix_length_le h h' shorter.le
    refine iff_of_true ?_ shorter
    rw [utf8Length_append]
    cases more with
    | nil =>
      rw [List.append_nil] at shorter
      exact absurd shorter (lt_irrefl _)
    | cons c more =>
      have := c.utf8Size_pos
      rw [utf8Length]
      omega
  · obtain ⟨more, rfl⟩ := List.prefix_of_prefix_length_le h' h longer
    refine iff_of_false ?_ (Nat.not_lt_of_le longer)
    rw [utf8Length_append]
    omega

/-- The bytes of a pattern are found where its characters occur first. -/
theorem find?_eq_some_iff {pattern text : String} (ne_empty : pattern ≠ "") {offset : Nat} :
    find? pattern text = some offset ↔
      ∃ before behind, FirstAt pattern.toList text.toList before behind ∧
        utf8Length before = offset := by
  rw [find?, List.find?_range_eq_some]
  simp only [Bool.not_eq_true', ← Bool.not_eq_true, isPrefixOf_drop_iff ne_empty]
  constructor
  · rintro ⟨⟨before, behind, occurs, rfl⟩, -, none⟩
    refine ⟨before, behind, ⟨occurs, ?_⟩, rfl⟩
    intro before' behind' occurs'
    refine Nat.le_of_not_lt fun earlier => none (utf8Length before') ?_ ⟨_, _, occurs', rfl⟩
    rw [List.append_assoc] at occurs occurs'
    exact (utf8Length_lt_iff ⟨_, occurs'.symm⟩ ⟨_, occurs.symm⟩).2 earlier
  · rintro ⟨before, behind, opened, rfl⟩
    have occurs := opened.occurs
    refine ⟨⟨before, behind, occurs, rfl⟩, ?_, ?_⟩
    · rw [List.mem_range, ← utf8Length_toList, occurs, List.append_assoc, utf8Length_append]
      omega
    · rintro offset earlier ⟨before', behind', occurs', rfl⟩
      rw [List.append_assoc] at occurs
      have first := opened.first occurs'
      rw [List.append_assoc] at occurs'
      rw [utf8Length_lt_iff ⟨_, occurs'.symm⟩ ⟨_, occurs.symm⟩] at earlier
      omega

/-- Looking for bytes finds what looking for characters does, with the place counted in bytes. -/
theorem find?_eq_map {pattern text : String} (ne_empty : pattern ≠ "") :
    find? pattern text =
      (splitAtFirst? pattern.toList text.toList).map fun cut => utf8Length cut.1 := by
  refine Option.ext fun offset => ?_
  rw [find?_eq_some_iff ne_empty, Option.map_eq_some_iff]
  simp only [← splitAtFirst?_eq_some_iff, Prod.exists]

/-- No bytes are found exactly if the characters do not occur. -/
theorem find?_eq_none_iff {pattern text : String} (ne_empty : pattern ≠ "") :
    find? pattern text = none ↔ ¬pattern.toList <:+: text.toList := by
  rw [find?_eq_map ne_empty, Option.map_eq_none_iff, splitAtFirst?_eq_none_iff_not_isInfix]

end Text
end StyledText
