import StyledText.Binary32
import StyledText.Decimal

/-!
# The shortest decimal of a single-precision number

A finite number is written with the fewest decimal digits that read back as the same number.
A text reads back as the number if its value lies in the number's *cell*, the interval of reals
that round to it; the ends belong to the cell when the number's last binary digit is even. Of two
shortest decimals the nearer one is taken, and on a tie the one with an even last digit. Nine
digits always suffice.
-/

namespace StyledText
namespace Binary32

-- A power is that of the natural numbers, whatever other powers there are.
local instance (priority := high) decimalPower : Pow Nat Nat := instPowNat

/-- The cell of a positive number, in quarters of a unit. -/
structure Cell where
  lower : Nat
  upper : Nat
  /-- The ends of the interval round to the number too. -/
  closed : Bool

/-- The cell of the number with the given units. Below a power of two the numbers lie twice as
close as above it. -/
def cell (units : Nat) : Cell :=
  let step := 2 ^ (units.log2 - 23)
  let below := if units = 0x800000 * step && step ≠ 1 then step else 2 * step
  ⟨4 * units - below, 4 * units + 2 * step, units / step % 2 = 0⟩

/-- A value in quarters of a unit lies in the cell, both given as multiples of a common part. -/
def Cell.contains (c : Cell) (scale value : Nat) : Bool :=
  if c.closed then c.lower * scale ≤ value && value ≤ c.upper * scale
  else c.lower * scale < value && value < c.upper * scale

/-- Values are compared as multiples of `10 ^ -54`, a power below the ninth digit of the least
positive number. -/
def places : Nat := 54

/-- The decimal number of `count` digits nearest to the number with the given units, if one of the
two next to it lies in its cell. `leading` is the place of its leading digit, `10 ^ -54` being
place zero. -/
def decimalOfCount? (units leading count : Nat) : Option (Nat × Int) :=
  let grid := 10 ^ (leading + 1 - count)
  let exact := units * 10 ^ places
  let low := exact / (one * grid)
  let inCell (digits : Nat) : Bool :=
    (cell units).contains (10 ^ places) (4 * (digits * grid * one))
  let power : Int := (leading + 1 - count : Nat) - (places : Nat)
  match inCell low, inCell (low + 1) with
  | true, true => some (roundDiv exact (one * grid), power)
  | true, false => some (low, power)
  | false, true => some (low + 1, power)
  | false, false => none

/-- The shortest decimal of a positive number with the given units. -/
def shortestDigits (units : Nat) : Nat × Int :=
  let leading := (Nat.toDigits 10 (units * 10 ^ places / one)).length - 1
  ((List.range 9).findSome? fun i => decimalOfCount? units leading (i + 1)).getD
    (units * 10 ^ places / one, -(places : Int))

/-- The shortest decimal of a finite number, and nothing of the others. -/
def shortest? : Binary32 → Option Decimal
  | finite negative units _ =>
    if units = 0 then some ⟨negative, 0, 0⟩
    else
      let (digits, exponent) := shortestDigits units
      some ⟨negative, digits, exponent⟩
  | _ => none

example : (ofBits 0x00000001).shortest?.map Decimal.text = some "1e-45" := by decide +kernel
example : (ofBits 0x3dcccccd).shortest?.map Decimal.text = some "0.1" := by decide +kernel
example : (ofBits 0x4f800000).shortest?.map Decimal.text = some "4294967300.0" := by
  decide +kernel
example : (ofBits 0x7f7fffff).shortest?.map Decimal.text = some "3.4028235e+38" := by
  decide +kernel

end Binary32
end StyledText
