/-
  FilterRules — what rounding depends on.

  A quotient of naturals is rounded by its value alone.

  * `halfEven_congr`, `halfEven_mono`, `le_halfEven`, `halfEven_whole` and
    `halfEven_small`: the rounding of a quotient to a natural;
  * `le_floorLog2_iff`: the binary order of magnitude of a quotient;
  * `roundMagnitude_eq`: the magnitude of the nearest number, as a quotient that
    is rounded to a natural and an exponent;
  * `roundMagnitude_congr`, `roundMagnitude_large`, `roundMagnitude_small` and
    `roundMagnitude_exact` follow: equal values have the same magnitude, large
    ones an infinite one, small ones none, and the value of a number its own;
  * `roundMagnitude_mono`: rounding keeps the order of values.
-/
import Mathlib.Algebra.Order.Field.Power
import Mathlib.Algebra.Order.Field.Rat
import Mathlib.Tactic.Linarith
import Mathlib.Tactic.Positivity
import Mathlib.Tactic.FieldSimp
import Mathlib.Tactic.Ring
import FilterRules.Binary64.Rounding

namespace FilterRules.Binary64

variable {num den num' den' : Nat}

/-! ## Rounding to naturals -/

theorem halfEven_mul {k : Nat} (hk : 0 < k) (num den : Nat) :
    halfEven (k * num) (k * den) = halfEven num den := by
  have h1 : 2 * (k * (num % den)) < k * den ↔ 2 * (num % den) < den := by
    rw [Nat.mul_left_comm, Nat.mul_lt_mul_left hk]
  have h2 : k * den < 2 * (k * (num % den)) ↔ den < 2 * (num % den) := by
    rw [Nat.mul_left_comm, Nat.mul_lt_mul_left hk]
  simp only [halfEven, Nat.mul_div_mul_left _ _ hk, Nat.mul_mod_mul_left, h1, h2]

/-- Equal quotients are rounded to the same natural. -/
theorem halfEven_congr (hd : 0 < den) (hd' : 0 < den') (h : (num : ℚ) / den = num' / den') :
    halfEven num den = halfEven num' den' := by
  have hc : den' * num = den * num' := by
    rw [div_eq_div_iff (by positivity) (by positivity)] at h
    have : num * den' = num' * den := by exact_mod_cast h
    rw [Nat.mul_comm, this, Nat.mul_comm]
  rw [← halfEven_mul hd' num den, hc, Nat.mul_comm den' den, halfEven_mul hd]

theorem halfEven_whole (hd : 0 < den) {m : Nat} (h : (num : ℚ) / den = m) :
    halfEven num den = m := by
  have h1 : (num : ℚ) / den = (m : Nat) / (1 : Nat) := by simpa using h
  rw [halfEven_congr hd Nat.one_pos h1]
  simp [halfEven, Nat.mod_one]

theorem le_halfEven (hd : 0 < den) {m : Nat} (h : (m : ℚ) ≤ num / den) :
    m ≤ halfEven num den := by
  rw [le_div_iff₀ (by positivity)] at h
  have hm : m ≤ num / den := (Nat.le_div_iff_mul_le hd).2 (by exact_mod_cast h)
  unfold halfEven
  dsimp only
  split_ifs <;> omega

theorem halfEven_small (hd : 0 < den) (h : (num : ℚ) / den < 1 / 2) : halfEven num den = 0 := by
  rw [div_lt_div_iff₀ (by positivity) (by positivity)] at h
  have hn : 2 * num < den := by
    have : num * 2 < 1 * den := by exact_mod_cast h
    omega
  have hlt : num < den := by omega
  simp [halfEven, Nat.div_eq_of_lt hlt, Nat.mod_eq_of_lt hlt, hn]

/-- A greater numerator is not rounded to a smaller natural. -/
theorem halfEven_le_halfEven (h : num ≤ num') :
    halfEven num den ≤ halfEven num' den := by
  have hq : num / den ≤ num' / den := Nat.div_le_div_right h
  have hn : den * (num / den) + num % den = num := Nat.div_add_mod num den
  have hn' : den * (num' / den) + num' % den = num' := Nat.div_add_mod num' den
  unfold halfEven
  dsimp only
  rcases Nat.lt_or_eq_of_le hq with hlt | heq
  · split_ifs <;> omega
  · rw [← heq] at hn' ⊢
    have hr : num % den ≤ num' % den := by omega
    split_ifs <;> omega

/-- **A greater quotient is not rounded to a smaller natural.** -/
theorem halfEven_mono (hd : 0 < den) (hd' : 0 < den') (h : (num : ℚ) / den ≤ num' / den') :
    halfEven num den ≤ halfEven num' den' := by
  rw [div_le_div_iff₀ (by positivity) (by positivity)] at h
  have hc : den' * num ≤ den * num' := by
    have : num * den' ≤ num' * den := by exact_mod_cast h
    rwa [Nat.mul_comm den', Nat.mul_comm den]
  rw [← halfEven_mul hd' num den, ← halfEven_mul hd num' den', Nat.mul_comm den' den]
  exact halfEven_le_halfEven hc

theorem halfEven_le (hd : 0 < den) {m : Nat} (h : (num : ℚ) / den ≤ m) : halfEven num den ≤ m := by
  have h1 : ((m : Nat) : ℚ) / (1 : Nat) = m := by simp
  rw [← halfEven_whole Nat.one_pos h1]
  exact halfEven_mono hd Nat.one_pos (h1.symm ▸ h)

/-! ## The order of magnitude -/

theorem log2_le {n : Nat} (h : 0 < n) : (2 : ℚ) ^ (n.log2 : Int) ≤ n := by
  rw [zpow_natCast]
  exact_mod_cast Nat.log2_self_le h.ne'

theorem lt_log2 (n : Nat) : (n : ℚ) < 2 ^ ((n.log2 : Int) + 1) := by
  rw [← Nat.cast_succ, zpow_natCast]
  exact_mod_cast Nat.lt_log2_self

/-- The test by which the order of magnitude is found. -/
theorem reached_iff (hd : 0 < den) (k : Int) :
    (if 0 ≤ k then decide (den <<< k.toNat ≤ num) else decide (den ≤ num <<< (-k).toNat)) = true ↔
      (2 : ℚ) ^ k ≤ num / den := by
  rw [le_div_iff₀ (by positivity)]
  split
  · next hk =>
    obtain ⟨n, rfl⟩ := Int.eq_ofNat_of_zero_le hk
    rw [decide_eq_true_eq, Int.toNat_natCast, Nat.shiftLeft_eq, zpow_natCast, mul_comm]
    exact_mod_cast Iff.rfl
  · next hk =>
    obtain ⟨n, hn⟩ := Int.eq_ofNat_of_zero_le (by omega : 0 ≤ -k)
    obtain rfl : k = -(n : Int) := by omega
    rw [decide_eq_true_eq, neg_neg, Int.toNat_natCast, Nat.shiftLeft_eq, zpow_neg, zpow_natCast,
      inv_mul_le_iff₀ (by positivity), mul_comm ((2 : ℚ) ^ n)]
    exact_mod_cast Iff.rfl

theorem div_lt_log2 (hd : 0 < den) :
    (num : ℚ) / den < 2 ^ ((num.log2 : Int) - den.log2 + 1) := by
  have he : (num.log2 : Int) - den.log2 + 1 = (num.log2 + 1) - den.log2 := by omega
  rw [he, zpow_sub₀ (by norm_num), div_lt_div_iff₀ (by positivity) (by positivity)]
  calc (num : ℚ) * 2 ^ (den.log2 : Int) < 2 ^ ((num.log2 : Int) + 1) * 2 ^ (den.log2 : Int) :=
        mul_lt_mul_of_pos_right (lt_log2 num) (by positivity)
    _ ≤ 2 ^ ((num.log2 : Int) + 1) * den :=
        mul_le_mul_of_nonneg_left (log2_le hd) (by positivity)

theorem log2_lt_div (hn : 0 < num) (hd : 0 < den) :
    (2 : ℚ) ^ ((num.log2 : Int) - den.log2 - 1) ≤ num / den := by
  have he : (num.log2 : Int) - den.log2 - 1 = num.log2 - (den.log2 + 1) := by omega
  rw [he, zpow_sub₀ (by norm_num), div_le_div_iff₀ (by positivity) (by positivity)]
  calc (2 : ℚ) ^ (num.log2 : Int) * den ≤ num * den :=
        mul_le_mul_of_nonneg_right (log2_le hn) (by positivity)
    _ ≤ num * 2 ^ ((den.log2 : Int) + 1) :=
        mul_le_mul_of_nonneg_left (lt_log2 den).le (by positivity)

theorem floorLog2_bounds (hn : 0 < num) (hd : 0 < den) :
    (2 : ℚ) ^ floorLog2 num den ≤ num / den ∧
      (num : ℚ) / den < 2 ^ (floorLog2 num den + 1) := by
  simp only [floorLog2, reached_iff hd]
  split
  · next hr => exact ⟨hr, div_lt_log2 hd⟩
  · next hr =>
    rw [sub_add_cancel]
    exact ⟨log2_lt_div hn hd, not_le.1 hr⟩

/-- **The order of magnitude is the exponent of the largest power that is reached.** -/
theorem le_floorLog2_iff (hn : 0 < num) (hd : 0 < den) {k : Int} :
    k ≤ floorLog2 num den ↔ (2 : ℚ) ^ k ≤ num / den := by
  constructor
  · intro h
    exact (zpow_le_zpow_right₀ (by norm_num) h).trans (floorLog2_bounds hn hd).1
  · intro h
    have := (zpow_lt_zpow_iff_right₀ (by norm_num)).1 (h.trans_lt (floorLog2_bounds hn hd).2)
    omega

theorem floorLog2_congr (hn : 0 < num) (hd : 0 < den) (hn' : 0 < num') (hd' : 0 < den')
    (h : (num : ℚ) / den = num' / den') : floorLog2 num den = floorLog2 num' den' := by
  refine eq_of_forall_le_iff fun k => ?_
  rw [le_floorLog2_iff hn hd, le_floorLog2_iff hn' hd', h]

theorem floorLog2_mono (hn : 0 < num) (hd : 0 < den) (hn' : 0 < num') (hd' : 0 < den')
    (h : (num : ℚ) / den ≤ num' / den') : floorLog2 num den ≤ floorLog2 num' den' :=
  (le_floorLog2_iff hn' hd').2 ((floorLog2_bounds hn hd).1.trans h)

/-! ## Magnitudes -/

/-- The magnitude of a quotient: an exponent, and the quotient in units of its power
    of two, rounded. -/
theorem roundMagnitude_eq (num : Nat) (hd : 0 < den) : ∃ a b : Nat, 0 < b ∧
    (a : ℚ) / b = num / den * 2 ^ (-ulpExponent num den) ∧
    roundMagnitude num den = (ulpExponent num den + 1074).toNat * 2 ^ 52 + halfEven a b := by
  unfold roundMagnitude
  dsimp only
  rw [Nat.shiftLeft_eq]
  split
  · next he =>
    obtain ⟨n, hn⟩ := Int.eq_ofNat_of_zero_le he
    refine ⟨num, den <<< (ulpExponent num den).toNat, ?_, ?_, rfl⟩
    · rw [Nat.shiftLeft_eq]; positivity
    · rw [hn, Int.toNat_natCast, Nat.shiftLeft_eq, zpow_neg, zpow_natCast]
      push_cast
      field_simp
  · next he =>
    obtain ⟨n, hn⟩ := Int.eq_ofNat_of_zero_le (by omega : 0 ≤ -ulpExponent num den)
    refine ⟨num <<< (-ulpExponent num den).toNat, den, hd, ?_, rfl⟩
    rw [hn, Int.toNat_natCast, Nat.shiftLeft_eq, zpow_natCast]
    push_cast
    field_simp

/-- **Quotients of the same value have the same magnitude.** -/
theorem roundMagnitude_congr (hn : 0 < num) (hd : 0 < den) (hn' : 0 < num') (hd' : 0 < den')
    (h : (num : ℚ) / den = num' / den') : roundMagnitude num den = roundMagnitude num' den' := by
  obtain ⟨a, b, hb, hq, hm⟩ := roundMagnitude_eq num hd
  obtain ⟨a', b', hb', hq', hm'⟩ := roundMagnitude_eq num' hd'
  have hu : ulpExponent num den = ulpExponent num' den' := by
    rw [ulpExponent, ulpExponent, floorLog2_congr hn hd hn' hd' h]
  rw [hm, hm', hu, halfEven_congr hb hb' (by rw [hq, hq', hu, h])]

/-- In units of its size a value has 53 bits before the point. -/
theorem unit_le (hn : 0 < num) (hd : 0 < den) :
    ((2 ^ 52 : Nat) : ℚ) ≤ num / den * 2 ^ (-(floorLog2 num den - 52)) :=
  calc ((2 ^ 52 : Nat) : ℚ) = 2 ^ floorLog2 num den * 2 ^ (-(floorLog2 num den - 52)) := by
        rw [← zpow_add₀ (by norm_num), neg_sub, add_sub_cancel]; norm_num
    _ ≤ num / den * 2 ^ (-(floorLog2 num den - 52)) :=
        mul_le_mul_of_nonneg_right (floorLog2_bounds hn hd).1 (by positivity)

/-- A value past the range has an infinite magnitude. -/
theorem roundMagnitude_large (hn : 0 < num) (hd : 0 < den) (h : (2 : ℚ) ^ 1024 ≤ num / den) :
    infinityMagnitude ≤ roundMagnitude num den := by
  obtain ⟨a, b, hb, hq, hm⟩ := roundMagnitude_eq num hd
  have hl : 1024 ≤ floorLog2 num den := (le_floorLog2_iff hn hd).2 (by exact_mod_cast h)
  have hu : ulpExponent num den = floorLog2 num den - 52 := by
    unfold ulpExponent; omega
  have ha : 2 ^ 52 ≤ halfEven a b := by
    refine le_halfEven hb ?_
    rw [hq, hu]
    exact unit_le hn hd
  rw [hm, infinityMagnitude]
  have : 2046 ≤ (ulpExponent num den + 1074).toNat := by omega
  omega

/-- A value far below the smallest number has the magnitude of zero. -/
theorem roundMagnitude_small (hn : 0 < num) (hd : 0 < den)
    (h : (num : ℚ) / den < 2 ^ (-1075 : Int)) :
    roundMagnitude num den = 0 := by
  obtain ⟨a, b, hb, hq, hm⟩ := roundMagnitude_eq num hd
  have hl : ¬ (-1075 ≤ floorLog2 num den) := by
    rw [le_floorLog2_iff hn hd, not_le]; exact h
  have hu : ulpExponent num den = -1074 := by
    unfold ulpExponent; omega
  have ha : halfEven a b = 0 := by
    refine halfEven_small hb ?_
    rw [hq, hu]
    calc (num : ℚ) / den * 2 ^ (-(-1074) : Int) < 2 ^ (-1075 : Int) * 2 ^ (-(-1074) : Int) :=
          mul_lt_mul_of_pos_right h (by positivity)
      _ = 1 / 2 := by rw [← zpow_add₀ (by norm_num)]; norm_num
  rw [hm, hu, ha]
  rfl

/-- **The value of a number has the magnitude of the number.** -/
theorem roundMagnitude_exact (hn : 0 < num) (hd : 0 < den) {m : Nat} {e : Int} (he : -1074 ≤ e)
    (hm : m < 2 ^ 53) (hm' : 2 ^ 52 ≤ m ∨ e = -1074) (h : (num : ℚ) / den = m * 2 ^ e) :
    roundMagnitude num den = (e + 1074).toNat * 2 ^ 52 + m := by
  obtain ⟨a, b, hb, hq, hr⟩ := roundMagnitude_eq num hd
  have hlt : ¬ (e + 53 ≤ floorLog2 num den) := by
    rw [le_floorLog2_iff hn hd, h, not_le, zpow_add₀ (by norm_num), mul_comm]
    exact mul_lt_mul_of_pos_left (by exact_mod_cast hm) (by positivity)
  have hle : 2 ^ 52 ≤ m → e + 52 ≤ floorLog2 num den := by
    intro hm
    rw [le_floorLog2_iff hn hd, h, zpow_add₀ (by norm_num), mul_comm]
    exact mul_le_mul_of_nonneg_right (by exact_mod_cast hm) (by positivity)
  have hu : ulpExponent num den = e := by
    unfold ulpExponent
    rcases hm' with hm' | rfl
    · have := hle hm'; omega
    · omega
  have ha : (a : ℚ) / b = m := by
    rw [hq, hu, h, mul_assoc, ← zpow_add₀ (by norm_num), add_neg_cancel, zpow_zero, mul_one]
  rw [hr, hu, halfEven_whole hb ha]

/-- **A greater value has no smaller magnitude.** -/
theorem roundMagnitude_mono (hn : 0 < num) (hd : 0 < den) (hn' : 0 < num') (hd' : 0 < den')
    (h : (num : ℚ) / den ≤ num' / den') : roundMagnitude num den ≤ roundMagnitude num' den' := by
  obtain ⟨a, b, hb, hq, hm⟩ := roundMagnitude_eq num hd
  obtain ⟨a', b', hb', hq', hm'⟩ := roundMagnitude_eq num' hd'
  have hf : floorLog2 num den ≤ floorLog2 num' den' := floorLog2_mono hn hd hn' hd' h
  have hu : ulpExponent num den ≤ ulpExponent num' den' := by
    unfold ulpExponent
    omega
  rw [hm, hm']
  rcases Int.lt_or_eq_of_le hu with hlt | heq
  · -- the greater value has a greater unit and fills it, the smaller one fits into its own
    have hlow : 2 ^ 52 ≤ halfEven a' b' := by
      refine le_halfEven hb' ?_
      have he : ulpExponent num' den' = floorLog2 num' den' - 52 := by
        unfold ulpExponent at hlt ⊢
        omega
      rw [hq', he]
      exact unit_le hn' hd'
    have hhigh : halfEven a b ≤ 2 ^ 53 := by
      refine halfEven_le hb ?_
      have he : floorLog2 num den + 1 ≤ ulpExponent num den + 53 := by
        unfold ulpExponent
        omega
      rw [hq]
      calc (num : ℚ) / den * 2 ^ (-ulpExponent num den)
          ≤ 2 ^ (ulpExponent num den + 53) * 2 ^ (-ulpExponent num den) :=
            mul_le_mul_of_nonneg_right ((floorLog2_bounds hn hd).2.le.trans
              (zpow_le_zpow_right₀ (by norm_num) he)) (by positivity)
        _ = ((2 ^ 53 : Nat) : ℚ) := by
            rw [← zpow_add₀ (by norm_num), add_neg_cancel_comm]
            norm_num
    have hge : -1074 ≤ ulpExponent num den := by
      unfold ulpExponent
      omega
    omega
  · have ha : halfEven a b ≤ halfEven a' b' := by
      refine halfEven_mono hb hb' ?_
      rw [hq, hq', heq]
      exact mul_le_mul_of_nonneg_right h (by positivity)
    rw [heq]
    omega

end FilterRules.Binary64
