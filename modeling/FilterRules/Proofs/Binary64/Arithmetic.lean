/-
  FilterRules — decimals that are read without loss.

  A decimal is read in steps, each of which rounds.  Where all but the last one are
  exact, what is read is the nearest number.

  * `Stands` says what the sign and the value of a number are, and `Fits` that a value
    is that of a number; such a value is rounded to itself (`stands_roundMagnitude`);
  * `fits_nat` and `stands_powerOfTen`: naturals below `2 ^ 53` and the powers of ten up
    to `10 ^ 22` are numbers;
  * `Stands.mul` and `Stands.div`: products and quotients are rounded once;
  * `ofParts_short`: a decimal of such a natural and such a power is read as the nearest
    number.
-/
import FilterRules.Proofs.Binary64.Decimal

namespace FilterRules.Binary64

/-! ## Values of numbers -/

/-- A number has a sign and a value. -/
structure Stands (x : Binary64) (negative : Bool) (q : ℚ) : Prop where
  sign : x.isNegative = negative
  amount : x.significand * 2 ^ x.exponent = q

/-- A value other than zero is that of a number: 53 bits in units of a power of two. -/
def Fits (q : ℚ) : Prop :=
  ∃ (m : Nat) (e : Int), q = m * 2 ^ e ∧ 2 ^ 52 ≤ m ∧ m < 2 ^ 53 ∧ -1074 ≤ e ∧ e ≤ 971

/-- A natural below `2 ^ 53`, also times a power of two, is the value of a number. -/
theorem fits_nat {n k : Nat} (h : 0 < n) (hn : n < 2 ^ 53) (hk : k ≤ 971) :
    Fits ((n : ℚ) * 2 ^ k) := by
  have hl : n.log2 < 53 := (Nat.log2_lt h.ne').2 hn
  have hs : 2 ^ n.log2 * 2 ^ (52 - n.log2) = 2 ^ 52 := by
    rw [← Nat.pow_add, Nat.add_sub_cancel' (by omega)]
  refine ⟨n * 2 ^ (52 - n.log2), (k : Int) - (52 - n.log2 : Nat), ?_, ?_, ?_, by omega, by omega⟩
  · rw [Nat.cast_mul, Nat.cast_pow, zpow_sub₀ (by norm_num), zpow_natCast, zpow_natCast]
    push_cast
    field_simp
  · rw [← hs]
    exact Nat.mul_le_mul_right _ (Nat.log2_self_le h.ne')
  · have hlt : n * 2 ^ (52 - n.log2) < 2 ^ (n.log2 + 1) * 2 ^ (52 - n.log2) :=
      Nat.mul_lt_mul_of_pos_right Nat.lt_log2_self (Nat.two_pow_pos _)
    rw [Nat.pow_succ, Nat.mul_right_comm, hs] at hlt
    omega

section
variable {num den : Nat}

/-- **The value of a number is rounded to itself.** -/
theorem stands_roundMagnitude (hn : 0 < num) (hd : 0 < den) (h : Fits ((num : ℚ) / den))
    (negative : Bool) :
    (ofMagnitude negative (roundMagnitude num den)).Stands negative (num / den) := by
  obtain ⟨m, e, hq, hm, hm', he, he'⟩ := h
  have hlt : (e + 1074).toNat * 2 ^ 52 + m < 0x8000000000000000 := by omega
  rw [roundMagnitude_exact hn hd he hm' (.inl hm) hq]
  refine ⟨isNegative_ofMagnitude negative hlt, ?_⟩
  have hs : (ofMagnitude negative ((e + 1074).toNat * 2 ^ 52 + m)).significand = m := by
    rw [significand, magnitude_ofMagnitude negative hlt, if_neg (by omega)]
    omega
  have hx : (ofMagnitude negative ((e + 1074).toNat * 2 ^ 52 + m)).exponent = e := by
    rw [Binary64.exponent, magnitude_ofMagnitude negative hlt, if_neg (by omega)]
    omega
  rw [hs, hx, hq]

theorem stands_ofNat {n : Nat} (h : 0 < n) (hf : Fits n) (negative : Bool) :
    (ofNat negative n).Stands negative n := by
  have h1 : ((n : Nat) : ℚ) / (1 : Nat) = n := by simp
  have hs := stands_roundMagnitude h Nat.one_pos (h1.symm ▸ hf) negative
  rwa [ofNat, if_neg h.ne', ← h1]

/-- The powers of ten up to `10 ^ 22` are numbers. -/
theorem stands_powerOfTen {k : Nat} (hk : k ≤ 22) : (powerOfTen k).Stands false (10 ^ k) := by
  have h10 : ((10 ^ k : Nat) : ℚ) = (5 ^ k : Nat) * 2 ^ k := by
    push_cast
    rw [← mul_pow]
    norm_num
  have h5 : 5 ^ k < 2 ^ 53 :=
    (Nat.pow_le_pow_right (by norm_num) hk).trans_lt (by norm_num)
  have hf : Fits ((10 ^ k : Nat) : ℚ) :=
    h10.symm ▸ fits_nat (Nat.pow_pos (by norm_num)) h5 (by omega)
  have hs := stands_ofNat (Nat.pow_pos (by norm_num)) hf false
  rwa [Nat.cast_pow] at hs

/-! ## Products and quotients -/

/-- A scaled quotient is rounded by its value, up to the infinity. -/
theorem roundScaled_eq {digits : Nat} {e exponent : Int} (hn : 0 < num) (hd : 0 < den)
    (h : 0 < digits) (hv : (num : ℚ) / den * 2 ^ e = digits * 10 ^ exponent) :
    roundScaled num den e = min infinityMagnitude (nearest digits exponent) := by
  obtain ⟨hn', hd'⟩ := decimalRatio_pos h exponent
  rw [roundScaled, if_neg hn.ne', nearest]
  congr 1
  split
  · next he =>
    obtain ⟨k, rfl⟩ := Int.eq_ofNat_of_zero_le he
    rw [Int.toNat_natCast, Nat.shiftLeft_eq]
    refine roundMagnitude_congr (by positivity) hd hn' hd' ?_
    rw [decimalRatio_value, ← hv, zpow_natCast]
    push_cast
    ring
  · next he =>
    obtain ⟨k, hk⟩ := Int.eq_ofNat_of_zero_le (by omega : 0 ≤ -e)
    obtain rfl : e = -(k : Int) := by omega
    rw [neg_neg, Int.toNat_natCast, Nat.shiftLeft_eq]
    refine roundMagnitude_congr hn (by positivity) hn' hd' ?_
    rw [decimalRatio_value, ← hv, zpow_neg, zpow_natCast]
    push_cast
    field_simp

end

namespace Stands

variable {x y : Binary64} {negative negative' : Bool} {p q : ℚ} {digits : Nat} {exponent : Int}

theorem significand_pos (hx : x.Stands negative p) (hp : 0 < p) : 0 < x.significand := by
  rw [Nat.pos_iff_ne_zero]
  intro h0
  have ha := hx.amount
  rw [h0, Nat.cast_zero, zero_mul] at ha
  exact hp.ne ha

/-- **A product is rounded once.** -/
theorem mul (hx : x.Stands negative p) (hy : y.Stands negative' q) (hp : 0 < p) (hq : 0 < q)
    (h : 0 < digits) (hv : p * q = digits * 10 ^ exponent) :
    x.mul y = ofMagnitude (negative != negative')
      (min infinityMagnitude (nearest digits exponent)) := by
  have hpos := Nat.mul_pos (hx.significand_pos hp) (hy.significand_pos hq)
  rw [Binary64.mul, hx.sign, hy.sign, roundScaled_eq hpos Nat.one_pos h]
  rw [← hv, ← hx.amount, ← hy.amount, zpow_add₀ (by norm_num)]
  push_cast
  ring

/-- **A quotient is rounded once.** -/
theorem div (hx : x.Stands negative p) (hy : y.Stands negative' q) (hp : 0 < p) (hq : 0 < q)
    (h : 0 < digits) (hv : p / q = digits * 10 ^ exponent) :
    x.div y = ofMagnitude (negative != negative')
      (min infinityMagnitude (nearest digits exponent)) := by
  have hy0 := hy.significand_pos hq
  rw [Binary64.div, hx.sign, hy.sign, roundScaled_eq (hx.significand_pos hp) hy0 h]
  rw [← hv, ← hx.amount, ← hy.amount, zpow_sub₀ (by norm_num)]
  field_simp

end Stands

/-! ## Decimals -/

section
variable {digits : Nat} {exponent : Int}

/-- Up to `10 ^ 22` a number is multiplied or divided once. -/
theorem scale_short (x : Binary64) (he : exponent.natAbs ≤ 22) :
    x.scale exponent = if exponent < 0 then x.div (powerOfTen exponent.natAbs)
      else x.mul (powerOfTen exponent.natAbs) := by
  unfold scale greatestPower
  split
  · have ha : (-exponent).toNat = exponent.natAbs := by omega
    have ht : (exponent.natAbs - 1) / 308 = 0 := by omega
    simp only [ha, ht, Nat.mul_zero, Nat.sub_zero, scaleDown]
  · have ha : exponent.toNat = exponent.natAbs := by omega
    rw [if_pos (by omega), ha]

theorem scale_zero (negative : Bool) (he : exponent.natAbs ≤ 22) :
    (ofMagnitude negative 0).scale exponent = ofMagnitude negative 0 := by
  have hs : (ofMagnitude negative 0).significand = 0 := by
    cases negative <;> rfl
  have hn : ((ofMagnitude negative 0).isNegative != (powerOfTen exponent.natAbs).isNegative) =
      negative := by
    rw [(stands_powerOfTen he).sign]
    cases negative <;> rfl
  rw [scale_short _ he, mul, div, hs, hn, Nat.zero_mul, roundScaled, roundScaled, if_pos rfl,
    if_pos rfl, ite_self]

theorem min_nearest {m : Nat} (h : 0 < digits) (hm : decimalMagnitude digits exponent = some m) :
    min infinityMagnitude (nearest digits exponent) = m := by
  rw [decimalMagnitude_eq h] at hm
  split at hm
  · next hlt => rw [Nat.min_eq_right hlt.le, Option.some_inj.1 hm]
  · cases hm

/-- **A decimal of up to 53 bits and a power up to `10 ^ 22` is read as the nearest number.** -/
theorem ofParts_short {m : Nat} (negative : Bool) (hd : digits < 2 ^ 53)
    (he : exponent.natAbs ≤ 22) (hm : decimalMagnitude digits exponent = some m) :
    ofParts negative digits exponent = ofMagnitude negative m := by
  rcases Nat.eq_zero_or_pos digits with rfl | h
  · rw [decimalMagnitude_zero, Option.some_inj] at hm
    rw [← hm]
    exact scale_zero negative he
  · -- the digits and the power are numbers, so that only the last step rounds
    have hx : (ofNat negative digits).Stands negative digits := by
      refine stands_ofNat h ?_ negative
      simpa using fits_nat h hd (Nat.zero_le 971)
    have hy := stands_powerOfTen he
    have hdigits : (0 : ℚ) < digits := by exact_mod_cast h
    have hten : (0 : ℚ) < 10 ^ exponent.natAbs := by positivity
    rw [ofParts, scale_short _ he]
    split
    · next hneg =>
      have hp : (digits : ℚ) / 10 ^ exponent.natAbs = digits * 10 ^ exponent := by
        rw [div_eq_mul_inv, ← zpow_natCast, ← zpow_neg]
        congr 2
        omega
      rw [hx.div hy hdigits hten h hp, min_nearest h hm, Bool.bne_false]
    · next hpos =>
      have hp : (digits : ℚ) * 10 ^ exponent.natAbs = digits * 10 ^ exponent := by
        rw [← zpow_natCast]
        congr 2
        omega
      rw [hx.mul hy hdigits hten h hp, min_nearest h hm, Bool.bne_false]

end

end FilterRules.Binary64
