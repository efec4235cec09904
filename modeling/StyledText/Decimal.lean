/-!
# Decimal numbers

A decimal number is a sign, its digits as one natural number, and the power of ten that these
count. Its text is positional while the leading digit stands between the millionths and the
trillions, and has an exponent with its sign outside that range; it always shows a point or an
exponent, so that a reader can tell it from an integer.
-/

namespace StyledText

/-- The number `digits * 10 ^ exponent`, with a sign of its own because zero has two. -/
structure Decimal where
  negative : Bool
  digits : Nat
  exponent : Int
deriving DecidableEq

namespace Decimal

/-- The same number without zeros at the end of its digits. -/
def trim (d : Decimal) : Decimal :=
  go (Nat.toDigits 10 d.digits).length d
where
  go : Nat → Decimal → Decimal
    | 0, d => d
    | fuel + 1, d =>
      if d.digits ≠ 0 ∧ d.digits % 10 = 0 then
        go fuel ⟨d.negative, d.digits / 10, d.exponent + 1⟩
      else d

/-- Which numbers are written positionally, by the place of their leading digit: `leading` is
one more than the exponent of its power of ten. -/
def isPositional (leading : Int) : Bool := -6 < leading && leading ≤ 13

/-- The text of an exponent, which has a sign in either direction. -/
def exponentText (power : Int) : List Char :=
  'e' :: (if power < 0 then '-' else '+') :: Nat.toDigits 10 power.natAbs

/-- The text without its sign. `digits` are the significant digits, `exponent` the power of ten
that they count. -/
def unsignedText (digits : List Char) (exponent : Int) : List Char :=
  let leading := digits.length + exponent
  if isPositional leading then
    if 0 ≤ exponent then
      digits ++ List.replicate exponent.toNat '0' ++ ['.', '0']
    else if 0 < leading then
      digits.take leading.toNat ++ '.' :: digits.drop leading.toNat
    else
      '0' :: '.' :: List.replicate (-leading).toNat '0' ++ digits
  else
    let power := exponentText (leading - 1)
    match digits with
    | first :: second :: rest => first :: '.' :: second :: rest ++ power
    | _ => digits ++ power

/-- The text of a decimal number. -/
def text (d : Decimal) : String :=
  let magnitude :=
    if d.digits = 0 then ['0', '.', '0']
    else unsignedText (Nat.toDigits 10 d.trim.digits) d.trim.exponent
  String.ofList (if d.negative then '-' :: magnitude else magnitude)

example : text ⟨false, 1234, 7⟩ = "12340000000.0" := by decide +kernel
example : text ⟨false, 1234, -2⟩ = "12.34" := by decide +kernel
example : text ⟨true, 1234, -6⟩ = "-0.001234" := by decide +kernel
example : text ⟨false, 10, 29⟩ = "1e+30" := by decide +kernel
example : text ⟨false, 1234, 30⟩ = "1.234e+33" := by decide +kernel
example : text ⟨false, 1, -45⟩ = "1e-45" := by decide +kernel
example : text ⟨true, 0, 0⟩ = "-0.0" := by decide +kernel

end Decimal

end StyledText
