/-
  FilterRules — the shortest decimal rounds to the number.

  * `roundsTo_exact`: the value in full rounds to the number;
  * `roundsTo_shortest`: so does the decimal that is written, wherever the search
    for it has ended.
-/
import FilterRules.Decimal.Shortest
import FilterRules.Proofs.Binary64.Decimal

namespace FilterRules.Decimal

variable {x : Binary64}

theorem roundsTo_iff {d : Scientific} : roundsTo x d = true ↔
    Binary64.decimalMagnitude d.digits d.exponent = some x.magnitude := beq_iff_eq

/-- The value in full is the value of the number. -/
theorem exact_value (x : Binary64) :
    ((exact x).digits : ℚ) * 10 ^ (exact x).exponent = x.significand * 2 ^ x.exponent := by
  unfold exact
  split
  · next he =>
    obtain ⟨n, hn⟩ := Int.eq_ofNat_of_zero_le he
    simp [hn, Nat.shiftLeft_eq]
  · next he =>
    obtain ⟨n, hn⟩ := Int.eq_ofNat_of_zero_le (by omega : 0 ≤ -x.exponent)
    obtain hx : x.exponent = -(n : Int) := by omega
    have h10 : (10 : ℚ) ^ n = 5 ^ n * 2 ^ n := by rw [← mul_pow]; norm_num
    rw [hn, Int.toNat_natCast, Nat.pow_eq, hx, zpow_neg, zpow_neg, zpow_natCast, zpow_natCast, h10]
    push_cast
    field_simp

theorem exact_pos (h : x.magnitude ≠ 0) : 0 < (exact x).digits := by
  have hs := Binary64.significand_pos h
  unfold exact
  split
  · rw [Nat.shiftLeft_eq]; positivity
  · exact Nat.mul_pos hs (Nat.pow_pos (by decide))

theorem roundsTo_exact (hf : x.isFinite = true) (h : x.magnitude ≠ 0) :
    roundsTo x (exact x) = true :=
  roundsTo_iff.2 (Binary64.decimalMagnitude_exact hf (exact_pos h) (exact_value x))

theorem roundsTo_candidates {exponent : Int} {d : Scientific} (h : d ∈ candidates x exponent) :
    roundsTo x d = true := (List.mem_filter.1 h).2

theorem roundsTo_firstOnGrids (hf : x.isFinite = true) (h : x.magnitude ≠ 0) (first : Int)
    (grids count : Nat) : roundsTo x (firstOnGrids x first grids count) = true := by
  induction grids generalizing count with
  | zero => exact roundsTo_exact hf h
  | succ grids ih =>
    rw [firstOnGrids]
    split
    · next d ds hc => exact roundsTo_candidates (hc ▸ List.mem_cons_self)
    · exact ih (count + 1)

/-- **The decimal that is written for a number rounds to the number.** -/
theorem roundsTo_shortest (hf : x.isFinite = true) (h : x.magnitude ≠ 0) :
    roundsTo x (shortest x) = true := roundsTo_firstOnGrids hf h _ 17 1

end FilterRules.Decimal
