/-!
# Searching in a text

A text without a prefix, and a text cut at the first place where a pattern occurs.

This file proves the following.
* `stripPrefix?` succeeds exactly on the texts that begin with the prefix
  (`stripPrefix?_eq_some_iff`).
* `splitAtFirst?` cuts out an occurrence of the pattern (`eq_of_splitAtFirst?`), and fails only
  if there is none (`splitAtFirst?_eq_none_iff`).
-/

namespace StyledText
namespace Text

/-- How many bytes a text takes in UTF-8. -/
def utf8Length : List Char → Nat
  | [] => 0
  | c :: s => c.utf8Size + utf8Length s

theorem utf8Length_append (s t : List Char) :
    utf8Length (s ++ t) = utf8Length s + utf8Length t := by
  induction s with
  | nil => simp [utf8Length]
  | cons c s ih => simp [utf8Length, ih, Nat.add_assoc]

/-- What follows the prefix in the text, if the text begins with it. -/
def stripPrefix? : List Char → List Char → Option (List Char)
  | [], text => some text
  | _ :: _, [] => none
  | p :: pattern, c :: text => if p = c then stripPrefix? pattern text else none

theorem stripPrefix?_eq_some_iff {pattern text rest : List Char} :
    stripPrefix? pattern text = some rest ↔ text = pattern ++ rest := by
  induction pattern generalizing text with
  | nil => simp [stripPrefix?]
  | cons p pattern ih =>
    cases text with
    | nil => simp [stripPrefix?]
    | cons c text =>
      simp only [stripPrefix?, List.cons_append, List.cons.injEq]
      split
      · next h => simp [h, ih]
      · next h => simp [Ne.symm h]

/-- The text before the first occurrence of the pattern, and the text behind it. -/
def splitAtFirst? (pattern : List Char) : List Char → Option (List Char × List Char)
  | [] => (stripPrefix? pattern []).map fun rest => ([], rest)
  | c :: text =>
    match stripPrefix? pattern (c :: text) with
    | some rest => some ([], rest)
    | none => (splitAtFirst? pattern text).map fun (before, rest) => (c :: before, rest)

theorem eq_of_splitAtFirst? {pattern text before rest : List Char}
    (h : splitAtFirst? pattern text = some (before, rest)) :
    text = before ++ pattern ++ rest := by
  induction text generalizing before with
  | nil =>
    simp only [splitAtFirst?, Option.map_eq_some_iff, Prod.mk.injEq] at h
    obtain ⟨r, hr, rfl, rfl⟩ := h
    simpa using stripPrefix?_eq_some_iff.1 hr
  | cons c text ih =>
    simp only [splitAtFirst?] at h
    split at h
    · next r hr =>
      obtain ⟨rfl, rfl⟩ := Prod.mk.inj (Option.some.inj h)
      simpa using stripPrefix?_eq_some_iff.1 hr
    · simp only [Option.map_eq_some_iff, Prod.mk.injEq] at h
      obtain ⟨⟨b, r⟩, hbr, rfl, rfl⟩ := h
      simp [ih hbr]

/-- The search fails exactly on the texts in which the pattern does not occur. -/
theorem splitAtFirst?_eq_none_iff {pattern text : List Char} :
    splitAtFirst? pattern text = none ↔ ∀ before rest, text ≠ before ++ pattern ++ rest := by
  induction text with
  | nil =>
    simp only [splitAtFirst?, Option.map_eq_none_iff]
    cases pattern <;> simp [stripPrefix?]
  | cons c text ih =>
    simp only [splitAtFirst?]
    split
    · next r hr =>
      have := stripPrefix?_eq_some_iff.1 hr
      simp only [reduceCtorEq, false_iff]
      exact fun none => none [] r (by simpa using this)
    · next hr =>
      rw [Option.map_eq_none_iff, ih]
      constructor
      · intro none before rest h
        cases before with
        | nil =>
          have := stripPrefix?_eq_some_iff.2 (by simpa using h)
          simp [this] at hr
        | cons b before =>
          simp only [List.cons_append, List.cons.injEq] at h
          exact none before rest h.2
      · intro none before rest h
        exact none (c :: before) rest (by simp [h])

/-- The pattern occurs in the text. -/
def occursIn (pattern text : List Char) : Bool := (splitAtFirst? pattern text).isSome

example : splitAtFirst? ['}', '}'] ['a', '}', '}', '}'] = some (['a'], ['}']) := by decide

end Text
end StyledText
