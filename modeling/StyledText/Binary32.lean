/-!
# Single-precision numbers

Image sizes, surface coordinates and font scaling are IEEE 754 single-precision numbers. Every
finite one is a whole multiple of the least positive one, `2 ^ -149`, so a finite number is kept
as its sign and that multiple, its *units*. The units of a sum, product or quotient are then an
exact ratio of integers, and each operation is that ratio rounded once, to the nearest
representable number and on a tie to the one with an even last digit.

This file proves the following.
* Rounding ends on a number of at most 24 significant binary digits (`roundUnits_form`), which is
  what `Binary32.Representable` asks of the units of a finite number.
* Representable units round to themselves (`roundUnits_mul`), so an integer of at most 24 binary
  digits is kept (`ofInt_of_natAbs_le`).
-/

namespace StyledText

-- A power is that of the natural numbers, whatever other powers there are.
local instance (priority := high) unitPower : Pow Nat Nat := instPowNat

/-- `numerator / denominator` rounded to the nearest whole number, a half to the even one. -/
def roundDiv (numerator denominator : Nat) : Nat :=
  let quotient := numerator / denominator
  let twice := 2 * (numerator % denominator)
  if twice < denominator then quotient
  else if denominator < twice then quotient + 1
  else quotient + quotient % 2

namespace Binary32

/-- How many units, of `2 ^ -149` each, make one. -/
def one : Nat := 2 ^ (149 : Nat)

/-- Units from here on, `2 ^ 128` in value, are beyond the largest finite number. -/
def limit : Nat := 2 ^ (128 : Nat) * one

/-- Units that a single-precision number can have: at most 24 significant binary digits, and
below the limit. -/
def Representable (units : Nat) : Prop :=
  units < limit ∧
    ∃ significand exponent : Nat, significand ≤ 0x1000000 ∧ units = significand * 2 ^ exponent

/-- `numerator / denominator` rounded to 24 significant binary digits, and to whole units. -/
def roundUnits (numerator denominator : Nat) : Nat :=
  let step := 2 ^ ((numerator / denominator).log2 - 23)
  roundDiv numerator (denominator * step) * step

end Binary32

/-- A single-precision number. All the values that are not a number are one. -/
inductive Binary32 where
  | nan
  | infinity (negative : Bool)
  | finite (negative : Bool) (units : Nat) (representable : Binary32.Representable units)
deriving DecidableEq

/-! ## Rounding -/

theorem roundDiv_le {numerator denominator bound : Nat}
    (h : numerator / denominator < bound) : roundDiv numerator denominator ≤ bound := by
  simp only [roundDiv]
  split
  · omega
  · split
    · omega
    · omega

/-- Of a whole multiple nothing is left to round. -/
theorem roundDiv_mul (n : Nat) {d : Nat} (h : 0 < d) : roundDiv (n * d) d = n := by
  simp only [roundDiv, Nat.mul_mod_left, Nat.mul_zero, Nat.mul_div_cancel n h, if_pos h]

namespace Binary32

theorem quotient_lt_of_step (n d : Nat) : n / (d * 2 ^ ((n / d).log2 - 23)) < 0x1000000 := by
  rw [← Nat.div_div_eq_div_mul]
  generalize n / d = q
  rw [Nat.div_lt_iff_lt_mul (Nat.two_pow_pos _)]
  calc q < 2 ^ (q.log2 + 1) := Nat.lt_log2_self
    _ ≤ 2 ^ (24 + (q.log2 - 23)) := Nat.pow_le_pow_right (by decide) (by omega)
    _ = 0x1000000 * 2 ^ (q.log2 - 23) := Nat.pow_add ..

/-- Rounded units have at most 24 significant binary digits. -/
theorem roundUnits_form (n d : Nat) :
    ∃ significand exponent : Nat, significand ≤ 0x1000000 ∧
      roundUnits n d = significand * 2 ^ exponent :=
  ⟨_, _, roundDiv_le (quotient_lt_of_step n d), rfl⟩

/-- The digits of a representable number below its 24 highest ones are zero. -/
theorem step_dvd_of_representable {units : Nat} (h : Representable units) :
    2 ^ (units.log2 - 23) ∣ units := by
  obtain ⟨_, significand, exponent, small, rfl⟩ := h
  rcases Nat.lt_or_ge exponent ((significand * 2 ^ exponent).log2 - 23) with beyond | within
  · -- Only the largest significand has a digit more than 24.
    have nonzero : significand * 2 ^ exponent ≠ 0 := by
      intro zero
      rw [zero] at beyond
      exact absurd beyond (Nat.not_lt_zero exponent)
    have upper : significand * 2 ^ exponent ≤ 2 ^ (24 + exponent) := by
      rw [Nat.pow_add]
      exact Nat.mul_le_mul_right _ small
    have lower : 2 ^ (24 + exponent) ≤ significand * 2 ^ exponent :=
      (Nat.le_log2 nonzero).1 (by omega)
    rw [Nat.le_antisymm upper lower, Nat.log2_two_pow]
    exact Nat.pow_dvd_pow 2 (Nat.sub_le ..)
  · exact Nat.dvd_trans (Nat.pow_dvd_pow 2 within) (Nat.dvd_mul_left ..)

/-- A whole multiple of the denominator is not changed by rounding, if it is representable. -/
theorem roundUnits_mul {units denominator : Nat} (h : Representable units)
    (pos : 0 < denominator) : roundUnits (units * denominator) denominator = units := by
  obtain ⟨quotient, exact⟩ := step_dvd_of_representable h
  have stepPos : 0 < 2 ^ (units.log2 - 23) := Nat.two_pow_pos _
  simp only [roundUnits, Nat.mul_div_cancel units pos]
  generalize 2 ^ (units.log2 - 23) = step at exact stepPos
  have multiple : units * denominator = quotient * (denominator * step) := by
    rw [exact, Nat.mul_comm step, Nat.mul_assoc, Nat.mul_comm step]
  rw [multiple, roundDiv_mul quotient (Nat.mul_pos pos stepPos), exact, Nat.mul_comm]

theorem representable_zero : Representable 0 := ⟨by decide, 0, 0, by decide, rfl⟩

theorem representable_whole {n : Nat} (h : n ≤ 0x1000000) : Representable (n * one) :=
  ⟨Nat.lt_of_le_of_lt (Nat.mul_le_mul_right one h) (by decide), n, 149, h, rfl⟩

/-! ## Numbers -/

/-- Zero with a sign. -/
def zero (negative : Bool) : Binary32 := .finite negative 0 representable_zero

instance : Inhabited Binary32 := ⟨zero false⟩

/-- The number nearest to `numerator / denominator` units; beyond the finite range it is
infinite. -/
def ofRatio (negative : Bool) (numerator denominator : Nat) : Binary32 :=
  if h : roundUnits numerator denominator < limit then
    .finite negative (roundUnits numerator denominator) ⟨h, roundUnits_form _ _⟩
  else
    .infinity negative

/-- The number nearest to an integer. -/
def ofInt (n : Int) : Binary32 := ofRatio (decide (n < 0)) (n.natAbs * one) 1

theorem ofRatio_mul (negative : Bool) {units denominator : Nat} (h : Representable units)
    (pos : 0 < denominator) :
    ofRatio negative (units * denominator) denominator = .finite negative units h := by
  simp only [ofRatio, roundUnits_mul h pos, dif_pos h.1]

theorem ofRatio_of_representable (negative : Bool) {units : Nat} (h : Representable units) :
    ofRatio negative units 1 = .finite negative units h := by
  have whole := ofRatio_mul negative h Nat.one_pos
  rwa [Nat.mul_one] at whole

/-- Integers of at most 24 binary digits are single-precision numbers. -/
theorem ofInt_of_natAbs_le {n : Int} (h : n.natAbs ≤ 0x1000000) :
    ofInt n = .finite (decide (n < 0)) (n.natAbs * one) (representable_whole h) :=
  ofRatio_of_representable _ _

/-- The number nearest to a natural number. -/
def ofNat (n : Nat) : Binary32 := ofRatio false (n * one) 1

/-- The units of a finite number with their sign. -/
def signedUnits (negative : Bool) (units : Nat) : Int :=
  if negative then -(units : Int) else units

/-! ## Arithmetic -/

/-- The number with its sign turned. -/
def neg : Binary32 → Binary32
  | nan => nan
  | infinity s => infinity !s
  | finite s u h => finite (!s) u h

/-- The sum, rounded once. A zero sum is negative only if both terms are. -/
def add : Binary32 → Binary32 → Binary32
  | nan, _ => nan
  | _, nan => nan
  | infinity s, infinity t => if s = t then infinity s else nan
  | infinity s, finite .. => infinity s
  | finite .., infinity t => infinity t
  | finite s u _, finite t v _ =>
    let sum := signedUnits s u + signedUnits t v
    if sum = 0 then zero (s && t) else ofRatio (decide (sum < 0)) sum.natAbs 1

/-- The difference, rounded once. -/
def sub (a b : Binary32) : Binary32 := add a (neg b)

/-- The product, rounded once. -/
def mul : Binary32 → Binary32 → Binary32
  | nan, _ => nan
  | _, nan => nan
  | infinity s, infinity t => infinity (s != t)
  | infinity s, finite t v _ => if v = 0 then nan else infinity (s != t)
  | finite s u _, infinity t => if u = 0 then nan else infinity (s != t)
  | finite s u _, finite t v _ => ofRatio (s != t) (u * v) one

/-- The quotient, rounded once. -/
def div : Binary32 → Binary32 → Binary32
  | nan, _ => nan
  | _, nan => nan
  | infinity _, infinity _ => nan
  | infinity s, finite t .. => infinity (s != t)
  | finite s .., infinity t => zero (s != t)
  | finite s u _, finite t v _ =>
    if v = 0 then
      if u = 0 then nan else infinity (s != t)
    else
      ofRatio (s != t) (u * one) v

instance : Neg Binary32 := ⟨neg⟩
instance : Add Binary32 := ⟨add⟩
instance : Sub Binary32 := ⟨sub⟩
instance : Mul Binary32 := ⟨mul⟩
instance : Div Binary32 := ⟨div⟩

/-! ## Whole numbers -/

/-- The whole number next to `x` in the direction of zero, moved into the 32-bit range; zero if
`x` is not a number. -/
def truncate : Binary32 → Int32
  | nan => 0
  | infinity negative => if negative then Int32.minValue else Int32.maxValue
  | finite negative units _ => Int32.ofIntClamp (signedUnits negative (units / one))

/-- The least whole number that is not below `x`, moved into the 32-bit range; zero if `x` is not
a number. -/
def ceil : Binary32 → Int32
  | nan => 0
  | infinity negative => if negative then Int32.minValue else Int32.maxValue
  | finite negative units _ =>
    let whole := if negative then units / one else (units + (one - 1)) / one
    Int32.ofIntClamp (signedUnits negative whole)

/-! ## Interchange format -/

theorem representable_normal {fraction exponent : Nat}
    (hf : fraction < 0x800000) (he : exponent < 254) :
    Representable ((0x800000 + fraction) * 2 ^ exponent) := by
  refine ⟨?_, _, _, ?_, rfl⟩
  · calc (0x800000 + fraction) * 2 ^ exponent
        < 0x1000000 * 2 ^ exponent :=
          Nat.mul_lt_mul_of_pos_right (by omega) (Nat.two_pow_pos _)
      _ ≤ 0x1000000 * 2 ^ (253 : Nat) :=
          Nat.mul_le_mul_left _ (Nat.pow_le_pow_right (by decide) (by omega))
      _ = limit := by decide
  · omega

theorem representable_subnormal {fraction : Nat} (hf : fraction < 0x800000) :
    Representable fraction :=
  ⟨Nat.lt_trans hf (by decide), fraction, 0, by omega, by simp⟩

/-- The number with the given 32 bits: a sign, eight bits of exponent, 23 of fraction. -/
def ofBits (bits : UInt32) : Binary32 :=
  let negative := decide (0x80000000 ≤ bits.toNat)
  let exponent := bits.toNat / 0x800000 % 0x100
  let fraction := bits.toNat % 0x800000
  have hf : fraction < 0x800000 := Nat.mod_lt _ (by decide)
  have he : exponent < 0x100 := Nat.mod_lt _ (by decide)
  if special : exponent = 255 then
    if fraction = 0 then infinity negative else nan
  else if subnormal : exponent = 0 then
    finite negative fraction (representable_subnormal hf)
  else
    finite negative ((0x800000 + fraction) * 2 ^ (exponent - 1))
      (representable_normal hf (by omega))

/-- The 31 bits below the sign of a finite number. -/
def magnitudeBits (units : Nat) : Nat :=
  if units < 0x800000 then units
  else
    let exponent := units.log2 - 23
    (exponent + 1) * 0x800000 + (units / 2 ^ exponent - 0x800000)

/-- The 32 bits of a number. A value that is not a number has a zero sign and the highest bit of
its fraction set. -/
def toBits : Binary32 → UInt32
  | nan => 0x7fc00000
  | infinity negative => signBit negative ||| 0x7f800000
  | finite negative units _ => signBit negative ||| UInt32.ofNat (magnitudeBits units)
where
  signBit (negative : Bool) : UInt32 := if negative then 0x80000000 else 0

example : (ofBits 0x3f800000 + ofBits 0x34000000).toBits = 0x3f800001 := by decide
example : (ofBits 0x7f7fffff + ofBits 0x7f7fffff).toBits = 0x7f800000 := by decide
example : (ofInt 16777217).toBits = 0x4b800000 := by decide
example : (ofInt (-7) / ofInt 2).truncate = -3 := by decide
example : (ofInt 7 / ofInt 2).ceil = 4 := by decide

end Binary32

end StyledText
