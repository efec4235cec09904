/-!
# White space

The characters with the Unicode property `White_Space`, and a text without those at its ends.
-/

namespace StyledText
namespace Text

/-- The character has the property `White_Space`. -/
def isWhiteSpace (c : Char) : Bool :=
  let n := c.toNat
  (0x09 ≤ n && n ≤ 0x0D) || n == 0x20 || n == 0x85 || n == 0xA0 || n == 0x1680 ||
    (0x2000 ≤ n && n ≤ 0x200A) || n == 0x2028 || n == 0x2029 || n == 0x202F || n == 0x205F ||
    n == 0x3000

/-- The text from its first to its last character that is not white space. -/
def trim (s : List Char) : List Char :=
  ((s.dropWhile isWhiteSpace).reverse.dropWhile isWhiteSpace).reverse

/-- The text is the core with white space around it. -/
def Padded (core text : List Char) : Prop :=
  ∃ front back, text = front ++ core ++ back ∧ (∀ c ∈ front, isWhiteSpace c = true) ∧
    ∀ c ∈ back, isWhiteSpace c = true

theorem Padded.refl (text : List Char) : Padded text text :=
  ⟨[], [], by simp, by simp, by simp⟩

/-- White space is all that a text loses at its ends. -/
theorem padded_trim (text : List Char) : Padded (trim text) text := by
  have cut (s : List Char) : ∀ c ∈ s.takeWhile isWhiteSpace, isWhiteSpace c = true :=
    List.all_eq_true.1 List.all_takeWhile
  let rest := (text.dropWhile isWhiteSpace).reverse
  refine ⟨text.takeWhile isWhiteSpace, (rest.takeWhile isWhiteSpace).reverse, ?_, cut text, ?_⟩
  · have whole :
        text.dropWhile isWhiteSpace = trim text ++ (rest.takeWhile isWhiteSpace).reverse := by
      rw [trim, ← List.reverse_append, List.takeWhile_append_dropWhile, List.reverse_reverse]
    rw [List.append_assoc, ← whole, List.takeWhile_append_dropWhile]
  · intro c inside
    exact cut rest c (List.mem_reverse.1 inside)

theorem dropWhile_of_solid {front core back : List Char}
    (blank : ∀ c ∈ front, isWhiteSpace c = true) (solid : ∀ c ∈ core, isWhiteSpace c = false)
    (ne_nil : core ≠ []) : (front ++ (core ++ back)).dropWhile isWhiteSpace = core ++ back := by
  rw [List.dropWhile_append_of_pos blank]
  cases core with
  | nil => exact absurd rfl ne_nil
  | cons c rest => rw [List.cons_append, List.dropWhile_cons_of_neg (by simp [solid c])]

/-- A core without white space is all that is left of a text that has white space around it. -/
theorem trim_of_padded {core text : List Char} (padded : Padded core text)
    (solid : ∀ c ∈ core, isWhiteSpace c = false) (ne_nil : core ≠ []) : trim text = core := by
  obtain ⟨front, back, rfl, blank, blank'⟩ := padded
  have backwards : ∀ c ∈ back.reverse, isWhiteSpace c = true := fun c inside =>
    blank' c (List.mem_reverse.1 inside)
  have solid' : ∀ c ∈ core.reverse, isWhiteSpace c = false := fun c inside =>
    solid c (List.mem_reverse.1 inside)
  have ends : (back.reverse ++ (core.reverse ++ [])).dropWhile isWhiteSpace = core.reverse ++ [] :=
    dropWhile_of_solid backwards solid' (List.reverse_ne_nil_iff.2 ne_nil)
  rw [List.append_nil] at ends
  rw [trim, List.append_assoc, dropWhile_of_solid blank solid ne_nil, List.reverse_append, ends,
    List.reverse_reverse]

example : trim ['\u2003', 'a', ' ', 'b', '\u0085'] = ['a', ' ', 'b'] := by decide

end Text
end StyledText
