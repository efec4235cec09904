import StyledText.Proofs.Values

/-!
# Rounding and order

Rounding never puts two numbers in the other order. So the product of a number that is not negative
with larger and larger numbers never gets smaller, and neither does what it is rounded up to.

Results:
1. `Binary32.roundUnits_mono`: rounding keeps the order.
2. `Binary32.ceil_mul_mono`: a scaled number, rounded up, grows with the number.
-/

namespace StyledText

-- A power is that of the natural numbers, as where rounding is defined.
local instance (priority := high) roundingPower : Pow Nat Nat := instPowNat

theorem le_roundDiv (numerator denominator : Nat) :
    numerator / denominator ≤ roundDiv numerator denominator := by
  simp only [roundDiv]
  split
  · omega
  · split
    · omega
    · omega

theorem roundDiv_mono {m n : Nat} (h : m ≤ n) (d : Nat) : roundDiv m d ≤ roundDiv n d := by
  rcases Nat.lt_or_eq_of_le (Nat.div_le_div_right (c := d) h) with less | same
  · exact Nat.le_trans (roundDiv_le (Nat.lt_succ_self _)) (Nat.le_trans less (le_roundDiv n d))
  · -- With one quotient, the rests are in the order of the numbers.
    have rest : m % d ≤ n % d := by
      have first := Nat.div_add_mod m d
      have second := Nat.div_add_mod n d
      rw [same] at first
      omega
    simp only [roundDiv, same]
    grind

namespace Binary32

/-! ## Units -/

theorem roundUnits_le_two_pow (n d : Nat) : roundUnits n d ≤ 2 ^ ((n / d).log2 - 23 + 24) := by
  rw [Nat.pow_add, Nat.mul_comm]
  exact Nat.mul_le_mul_right _ (roundDiv_le (quotient_lt_of_step n d))

theorem two_pow_le_roundUnits {n d : Nat} (large : 23 ≤ (n / d).log2) :
    2 ^ (n / d).log2 ≤ roundUnits n d := by
  have nonzero : n / d ≠ 0 := by
    intro zero
    rw [zero] at large
    exact absurd large (by decide)
  have digits : 2 ^ (n / d).log2 = 2 ^ (23 : Nat) * 2 ^ ((n / d).log2 - 23) := by
    rw [← Nat.pow_add, Nat.add_sub_cancel' large]
  rw [digits]
  refine Nat.mul_le_mul_right _ (Nat.le_trans ?_ (le_roundDiv _ _))
  rw [← Nat.div_div_eq_div_mul, Nat.le_div_iff_mul_le (Nat.two_pow_pos _), ← digits]
  exact Nat.log2_self_le nonzero

/-- Rounding to 24 digits keeps the order. Numbers with as many digits are rounded at the same one,
and between others there is a power of two. -/
theorem roundUnits_mono {m n : Nat} (h : m ≤ n) (d : Nat) : roundUnits m d ≤ roundUnits n d := by
  have quotients : m / d ≤ n / d := Nat.div_le_div_right h
  have digits : (m / d).log2 ≤ (n / d).log2 := by
    rcases Nat.eq_zero_or_pos (m / d) with zero | pos
    · rw [zero]
      exact Nat.zero_le _
    · have lower : 2 ^ (m / d).log2 ≤ m / d := Nat.log2_self_le (Nat.ne_of_gt pos)
      exact (Nat.le_log2 (by omega)).2 (Nat.le_trans lower quotients)
  rcases Nat.lt_or_ge ((m / d).log2 - 23) ((n / d).log2 - 23) with less | same
  · calc roundUnits m d
        ≤ 2 ^ ((m / d).log2 - 23 + 24) := roundUnits_le_two_pow m d
      _ ≤ 2 ^ (n / d).log2 := Nat.pow_le_pow_right (by decide) (by omega)
      _ ≤ roundUnits n d := two_pow_le_roundUnits (by omega)
  · have step : (m / d).log2 - 23 = (n / d).log2 - 23 := by omega
    simp only [roundUnits, step]
    exact Nat.mul_le_mul_right _ (roundDiv_mono h _)

/-! ## Numbers that are not negative -/

/-- The number has no sign, and it may be infinite. -/
inductive NonNegative : Binary32 → Prop
  | finite {units : Nat} (representable : Representable units) :
      NonNegative (finite false units representable)
  | infinity : NonNegative (infinity false)

/-- A rounded ratio is finite or too large. -/
theorem ofRatio_cases (n d : Nat) :
    (∃ representable, ofRatio false n d = finite false (roundUnits n d) representable) ∨
      limit ≤ roundUnits n d ∧ ofRatio false n d = infinity false := by
  rcases Nat.lt_or_ge (roundUnits n d) limit with small | large
  · exact .inl ⟨⟨small, roundUnits_form n d⟩, dif_pos small⟩
  · exact .inr ⟨large, dif_neg (Nat.not_lt_of_le large)⟩

theorem nonNegative_ofRatio (n d : Nat) : NonNegative (ofRatio false n d) := by
  rcases ofRatio_cases n d with ⟨representable, same⟩ | ⟨-, same⟩
  · rw [same]
    exact .finite representable
  · rw [same]
    exact .infinity

theorem nonNegative_div {x : Binary32} (h : x.NonNegative) {units : Nat}
    (representable : Representable units) (pos : 0 < units) :
    (x / finite false units representable).NonNegative := by
  cases h with
  | finite dividend =>
    show (div _ _).NonNegative
    rw [div, if_neg pos.ne']
    exact nonNegative_ofRatio _ _
  | infinity => exact .infinity

theorem toInt_ceil_finite {units : Nat} (representable : Representable units) :
    (finite false units representable).ceil.toInt =
      min (((units + (one - 1)) / one : Nat) : Int) 0x7fffffff := by
  have whole : 0 ≤ (((units + (one - 1)) / one : Nat) : Int) := Int.natCast_nonneg _
  simp only [ceil, signedUnits, toInt_ofIntClamp, Bool.false_eq_true, if_false]
  generalize (((units + (one - 1)) / one : Nat) : Int) = ceiling at whole ⊢
  omega

theorem ceil_nonneg {x : Binary32} (h : x.NonNegative) : 0 ≤ x.ceil.toInt := by
  cases h with
  | finite representable =>
    rw [toInt_ceil_finite]
    exact le_min (Int.natCast_nonneg _) (by decide)
  | infinity => decide

theorem ceil_ofRatio_mono {m n : Nat} (h : m ≤ n) (d : Nat) :
    (ofRatio false m d).ceil.toInt ≤ (ofRatio false n d).ceil.toInt := by
  have units := roundUnits_mono h d
  rcases ofRatio_cases m d with ⟨representable, first⟩ | ⟨large, first⟩
  · rcases ofRatio_cases n d with ⟨representable', second⟩ | ⟨-, second⟩
    · rw [first, second, toInt_ceil_finite, toInt_ceil_finite]
      refine min_le_min_right _ (Int.ofNat_le.2 ?_)
      exact Nat.div_le_div_right (Nat.add_le_add_right units _)
    · rw [first, second, toInt_ceil_finite]
      exact min_le_right _ _
  · rcases ofRatio_cases n d with ⟨representable', -⟩ | ⟨-, second⟩
    · exact absurd (large.trans units) (Nat.not_le_of_lt representable'.1)
    · rw [first, second]

/-- A larger number times a scale is not rounded up to less. Zero times an infinite scale is no
number, and that counts as zero. -/
theorem ceil_mul_mono {scale : Binary32} (h : scale.NonNegative) {u v : Nat} (le : u ≤ v)
    (hu : Representable u) (hv : Representable v) :
    0 ≤ (finite false u hu * scale).ceil.toInt ∧
      (finite false u hu * scale).ceil.toInt ≤ (finite false v hv * scale).ceil.toInt := by
  cases h with
  | @finite w hw =>
    constructor
    · exact ceil_nonneg (nonNegative_ofRatio (u * w) one)
    · exact ceil_ofRatio_mono (Nat.mul_le_mul_right w le) one
  | infinity =>
    show 0 ≤ (mul _ _).ceil.toInt ∧ (mul _ _).ceil.toInt ≤ (mul _ _).ceil.toInt
    simp only [mul]
    split
    · split
      · decide
      · decide
    · split
      · omega
      · decide

/-- A natural number is rounded the same as an integer. -/
theorem ofInt_natCast (n : Nat) : ofInt n = ofNat n := by
  rw [ofInt, ofNat, Int.natAbs_natCast, decide_eq_false (Int.not_lt.2 (Int.natCast_nonneg n))]

/-- A natural number of the grid is finite. -/
theorem ofNat_finite {n : Nat} (small : n ≤ 0x80000000) :
    ∃ representable, ofNat n = finite false (roundUnits (n * one) 1) representable := by
  have bounded : roundUnits (n * one) 1 < limit :=
    calc roundUnits (n * one) 1
        ≤ roundUnits (0x80000000 * one) 1 := roundUnits_mono (Nat.mul_le_mul_right one small) 1
      _ < limit := by decide +kernel
  rcases ofRatio_cases (n * one) 1 with found | ⟨large, -⟩
  · exact found
  · exact absurd large (Nat.not_le_of_lt bounded)

end Binary32
end StyledText
