/-
  FilterRules — what the number of a decimal depends on.

  * `decimalMagnitude_eq`: the decimals that are settled by their exponent alone are
    settled as all others are;
  * `decimalMagnitude_congr`: decimals of the same value have the same magnitude,
    however the value is divided between digits and exponent;
  * `decimalMagnitude_bounds`: where the value of a decimal lies that stands for a
    number other than zero;
  * `decimalMagnitude_exact`: the value of a number, written as a decimal, stands
    for the number.
-/
import FilterRules.Binary64.Decimal
import FilterRules.Proofs.Binary64.Rounding

namespace FilterRules.Binary64

variable {digits digits' : Nat} {exponent exponent' : Int}

/-! ## Values -/

/-- The quotient of a decimal is its value. -/
theorem decimalRatio_value (digits : Nat) (exponent : Int) :
    ((decimalRatio digits exponent).1 : ℚ) / (decimalRatio digits exponent).2 =
      digits * 10 ^ exponent := by
  unfold decimalRatio
  split
  · next he =>
    obtain ⟨n, rfl⟩ := Int.eq_ofNat_of_zero_le he
    simp
  · next he =>
    obtain ⟨n, hn⟩ := Int.eq_ofNat_of_zero_le (by omega : 0 ≤ -exponent)
    obtain rfl : exponent = -(n : Int) := by omega
    simp [div_eq_mul_inv]

theorem decimalRatio_pos (h : 0 < digits) (exponent : Int) :
    0 < (decimalRatio digits exponent).1 ∧ 0 < (decimalRatio digits exponent).2 := by
  unfold decimalRatio
  split
  · exact ⟨Nat.mul_pos h (Nat.pow_pos (by decide)), Nat.one_pos⟩
  · exact ⟨h, Nat.pow_pos (by decide)⟩

/-- The magnitude nearest to the value of a decimal. -/
def nearest (digits : Nat) (exponent : Int) : Nat :=
  roundMagnitude (decimalRatio digits exponent).1 (decimalRatio digits exponent).2

theorem nearest_congr (h : 0 < digits) (h' : 0 < digits')
    (hv : (digits : ℚ) * 10 ^ exponent = digits' * 10 ^ exponent') :
    nearest digits exponent = nearest digits' exponent' := by
  obtain ⟨hn, hd⟩ := decimalRatio_pos h exponent
  obtain ⟨hn', hd'⟩ := decimalRatio_pos h' exponent'
  refine roundMagnitude_congr hn hd hn' hd' ?_
  rw [decimalRatio_value, decimalRatio_value, hv]

theorem two_pow_le_ten_pow {m n : Nat} (h : m ≤ 3 * n) : (2 : ℚ) ^ m ≤ 10 ^ n :=
  calc (2 : ℚ) ^ m ≤ 2 ^ (3 * n) := pow_le_pow_right₀ (by norm_num) h
    _ = 8 ^ n := by rw [pow_mul]; norm_num
    _ ≤ 10 ^ n := pow_le_pow_left₀ (by norm_num) (by norm_num) n

theorem nearest_large (h : 0 < digits) (hv : (10 : ℚ) ^ (400 : Int) ≤ digits * 10 ^ exponent) :
    infinityMagnitude ≤ nearest digits exponent := by
  obtain ⟨hn, hd⟩ := decimalRatio_pos h exponent
  refine roundMagnitude_large hn hd ?_
  rw [decimalRatio_value]
  rw [zpow_ofNat] at hv
  exact (two_pow_le_ten_pow (show 1024 ≤ 3 * 400 by decide)).trans hv

theorem nearest_small (h : 0 < digits) (hv : (digits : ℚ) * 10 ^ exponent < 10 ^ (-399 : Int)) :
    nearest digits exponent = 0 := by
  obtain ⟨hn, hd⟩ := decimalRatio_pos h exponent
  refine roundMagnitude_small hn hd ?_
  rw [decimalRatio_value]
  refine hv.trans_le ?_
  rw [zpow_neg, zpow_neg, zpow_ofNat, zpow_ofNat]
  exact inv_anti₀ (by positivity) (two_pow_le_ten_pow (show 1075 ≤ 3 * 399 by decide))

/-! ## Magnitudes -/

theorem decimalMagnitude_zero (exponent : Int) : decimalMagnitude 0 exponent = some 0 := rfl

/-- **The magnitude of a decimal is the nearest one, if it is finite.** -/
theorem decimalMagnitude_eq (h : 0 < digits) (exponent : Int) :
    decimalMagnitude digits exponent =
      if nearest digits exponent < infinityMagnitude then some (nearest digits exponent)
      else none := by
  rw [decimalMagnitude, if_neg h.ne']
  split
  · next he =>
    have hv : (10 : ℚ) ^ (400 : Int) ≤ digits * 10 ^ exponent :=
      calc (10 : ℚ) ^ (400 : Int) ≤ 10 ^ exponent := zpow_le_zpow_right₀ (by norm_num) he.le
        _ ≤ digits * 10 ^ exponent :=
          le_mul_of_one_le_left (by positivity) (by exact_mod_cast h)
    rw [if_neg (Nat.not_lt.2 (nearest_large h hv))]
  · split
    · next he =>
      have hv : (digits : ℚ) * 10 ^ exponent < 10 ^ (-399 : Int) := by
        have hle : exponent + (digits.log2 + 1) ≤ -399 := by omega
        calc (digits : ℚ) * 10 ^ exponent
            < 2 ^ ((digits.log2 : Int) + 1) * 10 ^ exponent :=
              mul_lt_mul_of_pos_right (lt_log2 digits) (by positivity)
          _ ≤ 10 ^ ((digits.log2 : Int) + 1) * 10 ^ exponent := by
              refine mul_le_mul_of_nonneg_right ?_ (by positivity)
              exact zpow_le_zpow_left₀ (by omega) (by norm_num) (by norm_num)
          _ = 10 ^ (exponent + (digits.log2 + 1)) := by
              rw [← zpow_add₀ (by norm_num), add_comm]
          _ ≤ 10 ^ (-399 : Int) := zpow_le_zpow_right₀ (by norm_num) hle
      rw [nearest_small h hv]
      rfl
    · rfl

/-- **Decimals of the same value have the same magnitude.** -/
theorem decimalMagnitude_congr (h : 0 < digits) (h' : 0 < digits')
    (hv : (digits : ℚ) * 10 ^ exponent = digits' * 10 ^ exponent') :
    decimalMagnitude digits exponent = decimalMagnitude digits' exponent' := by
  rw [decimalMagnitude_eq h, decimalMagnitude_eq h', nearest_congr h h' hv]

/-- The value of a decimal that stands for a number other than zero. -/
theorem decimalMagnitude_bounds {m : Nat} (hm : decimalMagnitude digits exponent = some m)
    (hne : m ≠ 0) : 0 < digits ∧ (10 : ℚ) ^ (-399 : Int) ≤ digits * 10 ^ exponent ∧
      (digits : ℚ) * 10 ^ exponent < 10 ^ (400 : Int) := by
  have h : 0 < digits := by
    rw [Nat.pos_iff_ne_zero]
    rintro rfl
    rw [decimalMagnitude_zero, Option.some_inj] at hm
    exact hne hm.symm
  rw [decimalMagnitude_eq h] at hm
  split at hm
  · next hfin =>
    rw [Option.some_inj] at hm
    refine ⟨h, not_lt.1 fun hv => ?_, not_le.1 fun hv => ?_⟩
    · rw [nearest_small h hv] at hm
      exact hne hm.symm
    · exact absurd hfin (Nat.not_lt.2 (nearest_large h hv))
  · cases hm

/-! ## Numbers -/

/-- A number is its sign and its magnitude. -/
theorem ofMagnitude_magnitude (x : Binary64) : ofMagnitude x.isNegative x.magnitude = x := by
  obtain ⟨bits⟩ := x
  have hlt := bits.toNat_lt
  rw [ofMagnitude, mk.injEq, ← UInt64.toNat_inj, UInt64.toNat_ofNat']
  simp only [isNegative, magnitude, decide_eq_true_eq]
  split <;> omega

theorem significand_lt (x : Binary64) : x.significand < 2 ^ 53 := by
  unfold significand
  split <;> omega

theorem exponent_ge (x : Binary64) : -1074 ≤ x.exponent := by
  unfold Binary64.exponent
  split <;> omega

theorem significand_ge (x : Binary64) : 2 ^ 52 ≤ x.significand ∨ x.exponent = -1074 := by
  unfold significand Binary64.exponent
  split <;> omega

theorem magnitude_eq (x : Binary64) :
    (x.exponent + 1074).toNat * 2 ^ 52 + x.significand = x.magnitude := by
  unfold significand Binary64.exponent
  split <;> omega

theorem significand_pos {x : Binary64} (h : x.magnitude ≠ 0) : 0 < x.significand := by
  unfold significand
  split <;> omega

/-- **A decimal that is the value of a number stands for the number.** -/
theorem decimalMagnitude_exact {x : Binary64} (hf : x.isFinite = true) (h : 0 < digits)
    (hv : (digits : ℚ) * 10 ^ exponent = x.significand * 2 ^ x.exponent) :
    decimalMagnitude digits exponent = some x.magnitude := by
  obtain ⟨hn, hd⟩ := decimalRatio_pos h exponent
  have hm : nearest digits exponent = x.magnitude := by
    rw [nearest, roundMagnitude_exact hn hd x.exponent_ge x.significand_lt x.significand_ge
      (by rw [decimalRatio_value, hv]), magnitude_eq]
  rw [decimalMagnitude_eq h, hm, if_pos (of_decide_eq_true hf)]

end FilterRules.Binary64
