/-
  FilterRules — what is written for a number, and what it is read as.

  * `Numeral.amount` is the value of a numeral without its sign;
  * `positional_written`, `exponential_written` and `render_written`: both forms of a
    decimal are numerals with the value of the decimal;
  * `point_bounds`: the exponent of a decimal of a number is within the bound
    up to which exponents are read;
  * `render_nearest`: a number is the nearest one to the numeral that is written for it;
  * `value_of_short`: a numeral with few digits and a small exponent is read as the nearest
    number.
-/
import FilterRules.Proofs.Binary64.Arithmetic
import FilterRules.Proofs.Decimal.Shortest
import FilterRules.Proofs.Json.Numeral

namespace FilterRules

open Json (Numeral digitsValue greatestExponent)

/-- The value of a numeral without its sign. -/
def Json.Numeral.amount (n : Numeral) : ℚ := n.digits * 10 ^ (n.exponent - n.fraction.length)

namespace Decimal

/-! ## Forms -/

theorem positional_before (ds : List Char) (k : Nat) :
    positional ds (-(k : Int)) = ['0'] ++ '.' :: (List.replicate k '0' ++ ds) := by
  rw [positional, if_pos (by omega), neg_neg, Int.toNat_natCast]
  rfl

theorem positional_inside {ds : List Char} {p : Nat} (hp : 0 < p) (hlt : p < ds.length) :
    positional ds p = ds.take p ++ '.' :: ds.drop p := by
  have hz : p - min p ds.length = 0 := by omega
  have hne : (ds.drop p).isEmpty = false := by
    rw [List.isEmpty_eq_false_iff, Ne, List.drop_eq_nil_iff]; omega
  simp [positional, hp.ne', hz, hne]

theorem positional_behind {ds : List Char} {p : Nat} (hp : 0 < p) (hle : ds.length ≤ p) :
    positional ds p = (ds ++ List.replicate (p - ds.length) '0') ++ '.' :: ['0'] := by
  simp [positional, hp.ne', List.take_of_length_le hle, List.drop_of_length_le hle]

section
variable {c : Char} {cs : List Char}

/-- A run of digits with the point inside or at an end of it is a numeral. -/
theorem positional_written (hc : c ≠ '0') (hd : AreDigits (c :: cs)) (point : Int)
    (negative : Bool) : ∃ n : Numeral, n.negative = negative ∧
      n.Written (positional (c :: cs) point) ∧
      n.amount = digitsValue (c :: cs) * 10 ^ (point - (c :: cs).length) := by
  rcases lt_or_ge 0 point with hp | hp
  · obtain ⟨p, rfl⟩ := Int.eq_ofNat_of_zero_le hp.le
    have hpos : 0 < p := by omega
    rcases Nat.lt_or_ge p (c :: cs).length with hlt | hge
    · -- The point divides the run.
      rw [← List.take_append_drop p (c :: cs), areDigits_append] at hd
      refine ⟨⟨negative, (c :: cs).take p, (c :: cs).drop p, 0⟩, rfl, ?_, ?_⟩
      · rw [positional_inside hpos hlt]
        refine .fraction ?_ hd.2 (by rw [Ne, List.drop_eq_nil_iff]; omega)
        obtain ⟨q, rfl⟩ := Nat.exists_eq_add_of_lt hpos
        exact .digits hc hd.1
      · rw [Numeral.amount, Numeral.digits, List.take_append_drop, List.length_drop]
        congr 2
        dsimp only
        omega
    · -- Zeros stand between the run and the point, and one behind the point.
      obtain ⟨k, rfl⟩ := Nat.exists_eq_add_of_le hge
      have hv : digitsValue (((c :: cs) ++ List.replicate k '0') ++ ['0']) =
          digitsValue (c :: cs) * 10 ^ (k + 1) := by
        rw [List.append_assoc, ← List.replicate_succ', digitsValue_append_zeros]
      refine ⟨⟨negative, (c :: cs) ++ List.replicate k '0', ['0'], 0⟩, rfl, ?_, ?_⟩
      · rw [positional_behind hpos hge, Nat.add_sub_cancel_left]
        exact .fraction (.digits hc (areDigits_append.2 ⟨hd, areDigits_zeros _⟩))
          (areDigits_zeros 1) (by simp)
      · have he : (((c :: cs).length + k : Nat) : Int) - (c :: cs).length = (k + 1 : Nat) + -1 := by
          omega
        have hf : (0 : Int) - (['0'] : List Char).length = -1 := rfl
        rw [Numeral.amount, Numeral.digits, hv, he, hf, zpow_add₀ (by norm_num), zpow_natCast,
          Nat.cast_mul, Nat.cast_pow, mul_assoc]
        rfl
  · obtain ⟨k, hk⟩ := Int.eq_ofNat_of_zero_le (by omega : 0 ≤ -point)
    obtain rfl : point = -(k : Int) := by omega
    refine ⟨⟨negative, ['0'], List.replicate k '0' ++ (c :: cs), 0⟩, rfl, ?_, ?_⟩
    · rw [positional_before]
      exact .fraction .zero (areDigits_append.2 ⟨areDigits_zeros k, hd⟩) (by simp)
    · have hv : digitsValue (['0'] ++ (List.replicate k '0' ++ (c :: cs))) =
          digitsValue (c :: cs) := by
        rw [← List.append_assoc]
        exact digitsValue_zeros_append (k + 1) (c :: cs)
      rw [Numeral.amount, Numeral.digits, hv, List.length_append, List.length_replicate]
      congr 2
      dsimp only
      omega

/-- A run of digits with the point behind the first one is a numeral. -/
theorem exponential_written (hc : c ≠ '0') (hd : AreDigits (c :: cs)) {exponent : Int}
    (he : exponent.natAbs ≤ greatestExponent) (negative : Bool) : ∃ n : Numeral,
      n.negative = negative ∧ n.Written (exponential (c :: cs) exponent) ∧
      n.amount = digitsValue (c :: cs) * 10 ^ (exponent + 1 - (c :: cs).length) := by
  obtain ⟨h1, h2⟩ := List.forall_mem_cons.1 hd
  have hw : IsWhole [c] := .digits hc (by simpa [AreDigits] using h1)
  cases cs with
  | nil =>
    refine ⟨⟨negative, [c], [], exponent⟩, rfl, .exponent hw he, ?_⟩
    simp [Numeral.amount, Numeral.digits]
  | cons c' cs =>
    refine ⟨⟨negative, [c], c' :: cs, exponent⟩, rfl, ?_, ?_⟩
    · exact .both hw h2 (by simp) he
    · simp [Numeral.amount, Numeral.digits]

end

/-! ## Decimals -/

/-- A decimal is written as a numeral of its value. -/
theorem render_written {d : Scientific} (h : 0 < d.digits) (style : Style)
    (he : (d.exponent + (Nat.toDigits 10 d.digits).length - 1).natAbs ≤ greatestExponent)
    (negative : Bool) : ∃ n : Numeral, n.negative = negative ∧ n.Written (d.render style) ∧
      n.amount = d.digits * 10 ^ d.exponent := by
  obtain ⟨c, cs, z, hs, hc, hd, hv, hl⟩ := significantDigits_spec h
  have hp : d.exponent + z + (c :: cs).length - (c :: cs).length = z + d.exponent := by omega
  have ha : (digitsValue (c :: cs) : ℚ) * 10 ^ (z + d.exponent) = d.digits * 10 ^ d.exponent := by
    rw [zpow_add₀ (by norm_num), zpow_natCast, ← mul_assoc]
    conv_rhs => rw [hv]
    push_cast
    rfl
  rw [Scientific.render, hs]
  dsimp only
  split
  · obtain ⟨n, hn, hw, hna⟩ :=
      positional_written hc hd (d.exponent + z + (c :: cs).length) negative
    exact ⟨n, hn, hw, by rw [hna, hp, ha]⟩
  · have he' : (d.exponent + z + (c :: cs).length - 1).natAbs ≤ greatestExponent := by omega
    obtain ⟨n, hn, hw, hna⟩ := exponential_written hc hd he' negative
    exact ⟨n, hn, hw, by rw [hna, sub_add_cancel, hp, ha]⟩

/-- The power of the first digit of a decimal that stands for a number. -/
theorem point_bounds {d : Scientific} {m : Nat}
    (h : Binary64.decimalMagnitude d.digits d.exponent = some m) (hm : m ≠ 0) :
    (d.exponent + (Nat.toDigits 10 d.digits).length - 1).natAbs ≤ greatestExponent := by
  obtain ⟨hpos, hlow, hhigh⟩ := Binary64.decimalMagnitude_bounds h hm
  have hl : 0 < (Nat.toDigits 10 d.digits).length := Nat.length_toDigits_pos
  have hle : (10 : ℚ) ^ (((Nat.toDigits 10 d.digits).length - 1 : Nat) : Int) ≤ d.digits := by
    rw [zpow_natCast]
    exact_mod_cast le_length_toDigits hpos
  have hlt : (d.digits : ℚ) < 10 ^ ((Nat.toDigits 10 d.digits).length : Int) := by
    rw [zpow_natCast]
    exact_mod_cast lt_length_toDigits d.digits
  have hup : (((Nat.toDigits 10 d.digits).length - 1 : Nat) : Int) + d.exponent < 400 := by
    rw [← zpow_lt_zpow_iff_right₀ (by norm_num : (1 : ℚ) < 10), zpow_add₀ (by norm_num)]
    exact (mul_le_mul_of_nonneg_right hle (by positivity)).trans_lt hhigh
  have hdown : -399 < ((Nat.toDigits 10 d.digits).length : Int) + d.exponent := by
    rw [← zpow_lt_zpow_iff_right₀ (by norm_num : (1 : ℚ) < 10), zpow_add₀ (by norm_num)]
    exact hlow.trans_lt (mul_lt_mul_of_pos_right hlt (by positivity))
  have hg : 400 ≤ greatestExponent := by decide
  omega

/-! ## Numbers -/

variable {x : Binary64} {n : Numeral}

/-- A numeral with the value of a decimal that stands for a number stands for it too. -/
theorem magnitude_of_amount {d : Scientific} {m : Nat} (hd : 0 < d.digits)
    (hm : Binary64.decimalMagnitude d.digits d.exponent = some m)
    (ha : n.amount = d.digits * 10 ^ d.exponent) :
    Binary64.decimalMagnitude n.digits (n.exponent - n.fraction.length) = some m := by
  have hn : 0 < n.digits := by
    rw [Nat.pos_iff_ne_zero]
    intro h0
    have hpos : (0 : ℚ) < d.digits * 10 ^ d.exponent := by positivity
    rw [← ha, Numeral.amount, h0, Nat.cast_zero, zero_mul] at hpos
    exact lt_irrefl 0 hpos
  rw [Binary64.decimalMagnitude_congr hn hd ha, hm]

/-- **A number is written as a numeral to which it is the nearest number.** -/
theorem render_nearest (hf : x.isFinite = true) : ∃ (n : Numeral) (text : List Char),
    render .json x = (if n.negative then '-' :: text else text) ∧
      n.negative = x.isNegative ∧ n.Written text ∧
      Binary64.decimalMagnitude n.digits (n.exponent - n.fraction.length) =
        some x.magnitude := by
  by_cases hx : x.magnitude = 0
  · refine ⟨⟨x.isNegative, ['0'], ['0'], 0⟩, ['0', '.', '0'], ?_, rfl, ?_, ?_⟩
    · simp [render, Binary64.isZero, hx]
    · exact .fraction .zero (areDigits_zeros 1) (by simp)
    · rw [hx]
      rfl
  · have hm := roundsTo_iff.1 (roundsTo_shortest hf hx)
    have hpos := (Binary64.decimalMagnitude_bounds hm hx).1
    obtain ⟨n, hn, hw, ha⟩ := render_written hpos .json (point_bounds hm hx) x.isNegative
    refine ⟨n, (shortest x).render .json, ?_, hn, hw, magnitude_of_amount hpos hm ha⟩
    simp [render, Binary64.isZero, hx, hn]

/-- **A numeral of up to 53 bits and a power up to `10 ^ 22` is read as the nearest number.** -/
theorem value_of_short (hf : x.isFinite = true) (hn : n.negative = x.isNegative)
    (hd : n.digits < 2 ^ 53) (he : (n.exponent - n.fraction.length).natAbs ≤ 22)
    (hm : Binary64.decimalMagnitude n.digits (n.exponent - n.fraction.length) =
      some x.magnitude) : n.value? = some (.float x hf) := by
  have hle : n.digits ≤ Json.greatestSignificand := hd.le.trans (by decide)
  rw [Numeral.value?, Json.Numeral.parts_eq hle, Json.Number.ofParts?,
    Binary64.ofParts_short _ hd he hm, hn, Binary64.ofMagnitude_magnitude, Json.Number.ofFloat?,
    dif_pos hf]

end Decimal

end FilterRules
