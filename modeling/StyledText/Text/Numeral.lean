/-!
# Numerals

The numerals of an unsigned number: one or more digits of a base, after at most one plus sign.
The digits are read from the left, so the first one that is no digit or that carries the number
past its bound is the one that decides the error.
-/

namespace StyledText

/-- Why a text is not the numeral of a number below the bound. -/
inductive NumeralError where
  | empty
  | invalidDigit
  | tooLarge
deriving DecidableEq

namespace NumeralError

/-- The text of the error. -/
def message : NumeralError → String
  | empty => "cannot parse integer from empty string"
  | invalidDigit => "invalid digit found in string"
  | tooLarge => "number too large to fit in target type"

end NumeralError

namespace Numeral

/-- The value of a decimal digit or of a letter after it, in either case. -/
def digitValue? (c : Char) : Option Nat :=
  if '0' ≤ c ∧ c ≤ '9' then some (c.toNat - '0'.toNat)
  else if 'a' ≤ c ∧ c ≤ 'z' then some (c.toNat - 'a'.toNat + 10)
  else if 'A' ≤ c ∧ c ≤ 'Z' then some (c.toNat - 'A'.toNat + 10)
  else none

/-- The value of a digit of the given base. -/
def digit? (base : Nat) (c : Char) : Option Nat :=
  (digitValue? c).filter (· < base)

/-- The number that begins with `value` and goes on with the given digits. -/
def digits (base bound : Nat) (value : Nat) : List Char → Except NumeralError Nat
  | [] => .ok value
  | c :: rest =>
    match digit? base c with
    | none => .error .invalidDigit
    | some d =>
      if value * base + d < bound then digits base bound (value * base + d) rest
      else .error .tooLarge

/-- The number below `bound` that a text is the numeral of. A sign alone is no numeral. -/
def read (base bound : Nat) : List Char → Except NumeralError Nat
  | [] => .error .empty
  | '+' :: c :: rest => digits base bound 0 (c :: rest)
  | s => digits base bound 0 s

theorem digit?_lt {base : Nat} {c : Char} {d : Nat} (h : digit? base c = some d) : d < base := by
  rw [digit?, Option.filter_eq_some_iff] at h
  exact of_decide_eq_true h.2

theorem digits_nil (base bound value : Nat) : digits base bound value [] = .ok value := rfl

/-- A numeral goes on with a digit that keeps the number below the bound. -/
theorem digits_cons_eq_ok_iff {base bound value n : Nat} {c : Char} {rest : List Char} :
    digits base bound value (c :: rest) = .ok n ↔
      ∃ d, digit? base c = some d ∧ value * base + d < bound ∧
        digits base bound (value * base + d) rest = .ok n := by
  rw [digits]
  cases digit? base c with
  | none => simp
  | some d =>
    by_cases below : value * base + d < bound
    · simp [below]
    · simp [below]

example : read 16 256 ['+', 'f'] = .ok 15 := rfl
example : read 16 256 ['+'] = .error .invalidDigit := rfl
example : read 10 100 ['1', '2', '3', 'x'] = .error .tooLarge := rfl

end Numeral
end StyledText
