import StyledText.Decimal

/-!
# JSON values

A number keeps the form it was written in: whole numbers are told apart from those with a point
or an exponent, because only the first count as sizes and channels. The fields of an object keep
their order, and a key may stand in several of them.
-/

namespace StyledText

/-- A JSON value. -/
inductive Json where
  | null
  | bool (value : Bool)
  | integer (value : Int)
  | decimal (value : Decimal)
  | string (value : String)
  | array (items : List Json)
  | object (fields : List (String × Json))

namespace Json

instance : Inhabited Json := ⟨null⟩

/-- The values under a key. -/
def valuesAt (fields : List (String × Json)) (key : String) : List Json :=
  (fields.filter (·.1 == key)).map (·.2)

/-- The natural number below the bound that a value is. -/
def natBelow? (bound : Nat) : Json → Option Nat
  | integer n => if 0 ≤ n ∧ n < bound then some n.toNat else none
  | _ => none

/-- The text that a value is. -/
def string? : Json → Option String
  | string s => some s
  | _ => none

/-- The truth value that a value is. -/
def bool? : Json → Option Bool
  | bool b => some b
  | _ => none

end Json
end StyledText
