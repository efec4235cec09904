import Mathlib
import StyledText.Geometry

/-!
# Values of single-precision numbers

A finite number stands for a rational one. A sum or a quotient that has the units of a number is not
rounded. Cutting off a fraction moves a number by less than one towards zero, unless it is beyond
the grid.

Results:
1. `Binary32.value?_ofInt`: an integer of at most 24 binary digits is its own value.
2. `Binary32.value?_add`, `Binary32.value?_div`: exact results.
3. `Binary32.toInt_truncate_of_ratio`, `Binary32.lt_truncate`: the whole part of a number.
-/

namespace StyledText
namespace Binary32

/-- The value of a finite number. -/
def value? : Binary32 → Option ℚ
  | finite negative units _ => some (signedUnits negative units / one)
  | _ => none

theorem one_pos : 0 < one := Nat.two_pow_pos 149

theorem signedUnits_natAbs_mul (n : Int) (scale : Nat) :
    signedUnits (decide (n < 0)) (n.natAbs * scale) = n * scale := by
  unfold signedUnits
  rcases Int.lt_or_le n 0 with negative | positive
  · rw [if_pos (decide_eq_true negative), Nat.cast_mul, Int.ofNat_natAbs_of_nonpos negative.le]
    exact (neg_mul_eq_neg_mul ..).trans (by rw [neg_neg])
  · rw [if_neg (by simpa using positive), Nat.cast_mul, Int.natAbs_of_nonneg positive]

theorem value?_ofInt {n : Int} (h : n.natAbs ≤ 0x1000000) : (ofInt n).value? = some (n : ℚ) := by
  have pos : (one : ℚ) ≠ 0 := Nat.cast_ne_zero.2 one_pos.ne'
  rw [ofInt_of_natAbs_le h, value?, signedUnits_natAbs_mul, Int.cast_mul, Int.cast_natCast,
    mul_div_cancel_right₀ _ pos]

/-! ## Exact results

A sum or a quotient is rounded, unless a number has its units. -/

theorem value?_finite (negative : Bool) {units : Nat} (h : Representable units) :
    (finite negative units h).value? = some ((signedUnits negative units : ℚ) / one) := rfl

/-- A number with a value has units. -/
theorem exists_units_of_value? {x : Binary32} {a : ℚ} (h : x.value? = some a) :
    ∃ negative units representable, x = finite negative units representable ∧
      (signedUnits negative units : ℚ) / one = a := by
  cases x with
  | nan => cases h
  | infinity negative => cases h
  | finite negative units representable =>
    exact ⟨negative, units, representable, rfl, Option.some.inj h⟩

theorem signedUnits_natAbs (n : Int) : signedUnits (decide (n < 0)) n.natAbs = n := by
  have scaled := signedUnits_natAbs_mul n 1
  rwa [Nat.mul_one, Nat.cast_one, Int.mul_one] at scaled

theorem signedUnits_not (negative : Bool) (units : Nat) :
    signedUnits (!negative) units = -signedUnits negative units := by
  cases negative <;> simp [signedUnits]

theorem value?_neg {x : Binary32} {a : ℚ} (h : x.value? = some a) : (-x).value? = some (-a) := by
  obtain ⟨negative, units, representable, rfl, rfl⟩ := exists_units_of_value? h
  have opposite :
      (signedUnits (!negative) units : ℚ) / one = -(signedUnits negative units / one) := by
    rw [signedUnits_not, Int.cast_neg, neg_div]
  exact congrArg some opposite

theorem value?_add {x y : Binary32} {a b : ℚ} (hx : x.value? = some a) (hy : y.value? = some b)
    {sum : Int} (exact : (a + b) * one = sum) (representable : Representable sum.natAbs) :
    (x + y).value? = some (a + b) := by
  obtain ⟨s, u, hu, rfl, rfl⟩ := exists_units_of_value? hx
  obtain ⟨t, v, hv, rfl, rfl⟩ := exists_units_of_value? hy
  have pos : (one : ℚ) ≠ 0 := Nat.cast_ne_zero.2 one_pos.ne'
  have units : signedUnits s u + signedUnits t v = sum := by
    rw [← add_div, div_mul_cancel₀ _ pos] at exact
    exact_mod_cast exact
  have value : ((signedUnits s u : ℚ) / one + signedUnits t v / one) = sum / one := by
    rw [eq_div_iff pos, exact]
  rw [value]
  show (add _ _).value? = _
  simp only [add, units]
  split
  · next nothing =>
    rw [nothing, Int.cast_zero, zero_div]
    cases s && t <;> simp [zero, value?, signedUnits]
  · rw [ofRatio_of_representable _ representable, value?_finite, signedUnits_natAbs]

theorem natAbs_signedUnits (negative : Bool) (units : Nat) :
    (signedUnits negative units).natAbs = units := by
  cases negative <;> simp [signedUnits]

/-- The signs of a quotient and of its divisor give that of the dividend. -/
theorem signedUnits_bne_mul (s t : Bool) (m n : Nat) :
    signedUnits (s != t) m * signedUnits t n = signedUnits s (m * n) := by
  cases s <;> cases t <;> simp [signedUnits]

theorem value?_div {x y : Binary32} {a b : ℚ} (hx : x.value? = some a) (hy : y.value? = some b)
    (nonzero : b ≠ 0) {quotient : Int} (exact : a / b * one = quotient)
    (representable : Representable quotient.natAbs) : (x / y).value? = some (a / b) := by
  obtain ⟨s, u, hu, rfl, rfl⟩ := exists_units_of_value? hx
  obtain ⟨t, v, hv, rfl, rfl⟩ := exists_units_of_value? hy
  have pos : (one : ℚ) ≠ 0 := Nat.cast_ne_zero.2 one_pos.ne'
  have divisor : signedUnits t v ≠ 0 := by
    intro zero
    rw [zero, Int.cast_zero, zero_div] at nonzero
    exact nonzero rfl
  have value : ((signedUnits s u : ℚ) / one) / (signedUnits t v / one) = quotient / one := by
    rw [eq_div_iff pos, exact]
  have units : signedUnits s u * one = quotient * signedUnits t v := by
    have cast : (signedUnits t v : ℚ) ≠ 0 := Int.cast_ne_zero.2 divisor
    rw [div_div_div_cancel_right₀ pos, div_mul_eq_mul_div, div_eq_iff cast] at exact
    exact_mod_cast exact
  have whole : u * one = quotient.natAbs * v := by
    have sizes := congrArg Int.natAbs units
    rwa [Int.natAbs_mul, Int.natAbs_mul, natAbs_signedUnits, natAbs_signedUnits,
      Int.natAbs_natCast] at sizes
  have sign : signedUnits (s != t) quotient.natAbs = quotient := by
    refine mul_right_cancel₀ divisor ?_
    rw [signedUnits_bne_mul, ← whole, ← units]
    cases s <;> simp [signedUnits]
  have divides : v ≠ 0 := by
    rintro rfl
    exact divisor (by cases t <;> rfl)
  rw [value]
  show (div _ _).value? = _
  simp only [div, if_neg divides]
  rw [whole, ofRatio_mul _ representable (Nat.pos_of_ne_zero divides), value?_finite, sign]

/-- The units of a half. -/
def half : Nat := 2 ^ 148

theorem representable_halves {n : Nat} (h : n ≤ 0x1000000) : Representable (n * half) :=
  ⟨Nat.lt_of_le_of_lt (Nat.mul_le_mul_right half h) (by decide), n, 148, h, rfl⟩

theorem one_eq_half : (one : ℚ) = 2 * half := by
  have units : one = 2 * half := by decide
  rw [units, Nat.cast_mul, Nat.cast_ofNat]

theorem natAbs_mul_half (n : Int) : (n * half : Int).natAbs = n.natAbs * half := by
  rw [Int.natAbs_mul, Int.natAbs_natCast]

theorem value?_add_halves {x y : Binary32} {m n : Int} (hx : x.value? = some (m / 2 : ℚ))
    (hy : y.value? = some (n / 2 : ℚ)) (small : (m + n).natAbs ≤ 0x1000000) :
    (x + y).value? = some ((m + n : Int) / 2 : ℚ) := by
  have units : (m / 2 + n / 2 : ℚ) * one = ((m + n) * half : Int) := by
    rw [one_eq_half]
    push_cast
    ring
  rw [value?_add hx hy units (natAbs_mul_half _ ▸ representable_halves small), ← add_div,
    Int.cast_add]

theorem value?_sub_halves {x y : Binary32} {m n : Int} (hx : x.value? = some (m / 2 : ℚ))
    (hy : y.value? = some (n / 2 : ℚ)) (small : (m - n).natAbs ≤ 0x1000000) :
    (x - y).value? = some ((m - n : Int) / 2 : ℚ) := by
  have opposite : (-y).value? = some (((-n : Int) : ℚ) / 2) := by
    rw [value?_neg hy, Int.cast_neg, neg_div]
  rw [sub_eq_add_neg] at small ⊢
  exact value?_add_halves hx opposite small

theorem value?_half {x : Binary32} {n : Int} (h : x.value? = some (n : ℚ))
    (small : n.natAbs ≤ 0x1000000) : (x / ofInt 2).value? = some (n / 2 : ℚ) := by
  have two : (ofInt 2).value? = some 2 := value?_ofInt (by decide)
  have units : (n / 2 : ℚ) * one = (n * half : Int) := by
    rw [one_eq_half]
    push_cast
    ring
  exact value?_div h two two_ne_zero units (natAbs_mul_half _ ▸ representable_halves small)

/-! ## Whole parts -/

theorem toInt_ofIntClamp (n : Int) :
    (Int32.ofIntClamp n).toInt = max (-0x80000000) (min n 0x7fffffff) := by
  have least : Int32.minValue.toInt = -0x80000000 := rfl
  have greatest : Int32.maxValue.toInt = 0x7fffffff := rfl
  rcases Int.lt_or_le n (-0x80000000) with below | above
  · rw [Int32.ofIntClamp, dif_neg (by omega), least]
    omega
  · rcases Int.lt_or_le 0x7fffffff n with beyond | within
    · rw [Int32.ofIntClamp, dif_pos (by omega), dif_neg (by omega), greatest]
      omega
    · rw [Int32.toInt_ofIntClamp (by omega) (by omega)]
      omega

theorem signedUnits_div (negative : Bool) (units scale : Nat) :
    signedUnits negative (units / scale) = (signedUnits negative units).tdiv scale := by
  have quotient : ((units / scale : Nat) : Int) = (units : Int).tdiv scale :=
    Int.natCast_ediv units scale
  cases negative with
  | false => exact quotient
  | true =>
    show -((units / scale : Nat) : Int) = (-(units : Int)).tdiv scale
    rw [Int.neg_tdiv, quotient]

/-- The whole part of a ratio is that of the number next to it in the direction of zero. -/
theorem toInt_truncate_of_ratio {x : Binary32} {n : Int} {d : Nat}
    (h : x.value? = some (n / d : ℚ)) (pos : 0 < d)
    (fits : Coordinate.InRange (n.tdiv d)) : x.truncate.toInt = n.tdiv d := by
  obtain ⟨negative, units, representable, rfl, quotient⟩ := exists_units_of_value? h
  have scale : (one : ℚ) ≠ 0 := Nat.cast_ne_zero.2 one_pos.ne'
  have divisor : (d : ℚ) ≠ 0 := Nat.cast_ne_zero.2 pos.ne'
  have cross : signedUnits negative units * d = n * one := by
    rw [div_eq_div_iff scale divisor] at quotient
    exact_mod_cast quotient
  have part : (signedUnits negative units).tdiv one = n.tdiv d := by
    rw [← Int.mul_tdiv_mul_of_pos_left _ _ (Nat.cast_pos.2 pos), cross, mul_comm (one : Int),
      Int.mul_tdiv_mul_of_pos_left _ _ (Nat.cast_pos.2 one_pos)]
  rw [truncate, toInt_ofIntClamp, signedUnits_div, part]
  obtain ⟨lower, upper⟩ := fits
  omega

/-- The whole part of a whole number of the grid is the number itself. -/
theorem toInt_truncate {x : Binary32} {n : Int} (h : x.value? = some (n : ℚ))
    (fits : Coordinate.InRange n) : x.truncate.toInt = n := by
  have ratio : x.value? = some (n / (1 : Nat) : ℚ) := by rw [h, Nat.cast_one, div_one]
  have part : n.tdiv (1 : Nat) = n := Int.tdiv_one n
  rw [toInt_truncate_of_ratio ratio Nat.one_pos (part.symm ▸ fits), part]

/-- The whole part of a number is less than one below it, unless the number is beyond the grid. -/
theorem lt_truncate {x : Binary32} {value : ℚ} (h : x.value? = some value)
    (small : value < 0x80000000) : value < x.truncate.toInt + 1 := by
  obtain ⟨negative, units, representable, rfl, rfl⟩ := exists_units_of_value? h
  have pos : (0 : ℚ) < one := Nat.cast_pos.2 one_pos
  have whole : (signedUnits negative units : ℚ) / one <
      ((signedUnits negative units).tdiv one + 1 : Int) := by
    rw [div_lt_iff₀ pos]
    exact_mod_cast Int.lt_tdiv_add_one_mul_self _ (Nat.cast_pos.2 one_pos)
  rw [truncate, toInt_ofIntClamp, signedUnits_div]
  generalize (signedUnits negative units).tdiv one = part at whole ⊢
  -- A whole part beyond the grid is moved to its end, and that is far enough.
  have clamped : part ≤ max (-0x80000000) (min part 0x7fffffff) ∨
      0x7fffffff ≤ max (-0x80000000) (min part 0x7fffffff) := by omega
  rcases clamped with kept | cut
  · refine whole.trans_le ?_
    exact_mod_cast Int.add_le_add_right kept 1
  · refine small.trans_le ?_
    exact_mod_cast Int.add_le_add_right cut 1

end Binary32
end StyledText
