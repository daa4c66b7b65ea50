/-
  FilterRules — runs of digits.

  * `digitsValue_append`, `digitsValue_zeros`, `digitsValue_toDigits` and `digitsValue_lt`:
    the value of a run of digits;
  * `IsWhole` says that a run may stand before the point of a number, with no zero
    in front of other digits; the digits of a natural do (`isWhole_toDigits`);
  * `le_length_toDigits` and `lt_length_toDigits`: the number of digits of a natural;
  * `significantDigits_spec`: a natural, from its digits without the zeros at the end.
-/
import Mathlib.Algebra.Group.Nat.Defs
import Mathlib.Data.List.TakeWhile
import FilterRules.Decimal.Notation
import FilterRules.Json.Scanner.Number

namespace FilterRules

open Json (digitsValue)

/-! ## Values -/

theorem digitsValue_eq (ds : List Char) : digitsValue ds = Nat.ofDigitChars 10 ds 0 := rfl

theorem digitsValue_append (ds es : List Char) :
    digitsValue (ds ++ es) = 10 ^ es.length * digitsValue ds + digitsValue es := by
  rw [digitsValue_eq, Nat.ofDigitChars_append, Nat.ofDigitChars_eq_ofDigitChars_zero]
  rfl

theorem digitsValue_zeros (n : Nat) : digitsValue (List.replicate n '0') = 0 := by
  rw [digitsValue_eq, Nat.ofDigitChars_replicate_zero, Nat.mul_zero]

theorem digitsValue_append_zeros (ds : List Char) (n : Nat) :
    digitsValue (ds ++ List.replicate n '0') = digitsValue ds * 10 ^ n := by
  rw [digitsValue_append, digitsValue_zeros, List.length_replicate, Nat.add_zero, Nat.mul_comm]

theorem digitsValue_zeros_append (n : Nat) (ds : List Char) :
    digitsValue (List.replicate n '0' ++ ds) = digitsValue ds := by
  rw [digitsValue_append, digitsValue_zeros, Nat.mul_zero, Nat.zero_add]

theorem digitsValue_toDigits (n : Nat) : digitsValue (Nat.toDigits 10 n) = n :=
  Nat.ofDigitChars_ten_toDigits

/-! ## The digits of naturals -/

/-- Every character is a digit. -/
def AreDigits (ds : List Char) : Prop := ∀ c ∈ ds, c.isDigit = true

theorem areDigits_toDigits (n : Nat) : AreDigits (Nat.toDigits 10 n) :=
  fun _ => Nat.isDigit_of_mem_toDigits (by decide) (by decide)

theorem areDigits_append {ds es : List Char} :
    AreDigits (ds ++ es) ↔ AreDigits ds ∧ AreDigits es := List.forall_mem_append

/-- A run of digits has a value below the power of ten with as many zeros. -/
theorem digitsValue_lt {ds : List Char} (h : AreDigits ds) : digitsValue ds < 10 ^ ds.length := by
  induction ds with
  | nil => exact Nat.one_pos
  | cons c cs ih =>
    obtain ⟨hc, hcs⟩ := List.forall_mem_cons.1 h
    have hv : digitsValue (c :: cs) = 10 ^ cs.length * digitsValue [c] + digitsValue cs :=
      digitsValue_append [c] cs
    have h9 : digitsValue [c] ≤ 9 := by
      have hle : c.toNat ≤ 57 := (Char.isDigit_iff_toNat.1 hc).2
      change 10 * 0 + (c.toNat - 48) ≤ 9
      omega
    calc digitsValue (c :: cs)
        < 10 ^ cs.length * digitsValue [c] + 10 ^ cs.length := by have := ih hcs; omega
      _ = 10 ^ cs.length * (digitsValue [c] + 1) := by rw [Nat.mul_add, Nat.mul_one]
      _ ≤ 10 ^ cs.length * 10 := Nat.mul_le_mul_left _ (by omega)
      _ = 10 ^ (c :: cs).length := by rw [List.length_cons, Nat.pow_succ]

theorem areDigits_zeros (n : Nat) : AreDigits (List.replicate n '0') := by
  intro c hc
  rw [List.eq_of_mem_replicate hc]
  rfl

/-- A run of digits that may stand before the point: a zero in front stands alone. -/
inductive IsWhole : List Char → Prop
  | zero : IsWhole ['0']
  | digits {c cs} : c ≠ '0' → AreDigits (c :: cs) → IsWhole (c :: cs)

theorem IsWhole.areDigits {ds : List Char} (h : IsWhole ds) : AreDigits ds := by
  cases h with
  | zero => exact areDigits_zeros 1
  | digits _ h => exact h

theorem digitChar_ne_zero : ∀ n < 10, 0 < n → n.digitChar ≠ '0' := by decide

theorem head_toDigits {n : Nat} (h : 0 < n) :
    ∃ c cs, Nat.toDigits 10 n = c :: cs ∧ c ≠ '0' := by
  induction n using Nat.base_induction 10 (by decide) with
  | single m hm => exact ⟨_, [], Nat.toDigits_of_lt_base hm, digitChar_ne_zero m hm h⟩
  | digit m k hk hm ih =>
    obtain ⟨c, cs, hd, hc⟩ := ih hm
    refine ⟨c, cs ++ Nat.toDigits 10 k, ?_, hc⟩
    rw [← Nat.toDigits_append_toDigits (by decide) hm hk, hd, List.cons_append]

theorem isWhole_toDigits (n : Nat) : IsWhole (Nat.toDigits 10 n) := by
  rcases Nat.eq_zero_or_pos n with rfl | h
  · exact .zero
  · obtain ⟨c, cs, hd, hc⟩ := head_toDigits h
    have ha := areDigits_toDigits n
    rw [hd] at ha ⊢
    exact .digits hc ha

theorem lt_length_toDigits (n : Nat) : n < 10 ^ (Nat.toDigits 10 n).length :=
  (Nat.length_toDigits_le_iff (by decide) Nat.length_toDigits_pos).1 le_rfl

theorem le_length_toDigits {n : Nat} (h : 0 < n) : 10 ^ ((Nat.toDigits 10 n).length - 1) ≤ n := by
  rcases Nat.eq_zero_or_pos ((Nat.toDigits 10 n).length - 1) with h0 | hpos
  · rw [h0]; exact h
  · refine Nat.not_lt.1 fun hlt => ?_
    have := (Nat.length_toDigits_le_iff (by decide) hpos).2 hlt
    omega

/-! ## Significant digits -/

namespace Decimal

theorem toDigits_eq_significant (n : Nat) : Nat.toDigits 10 n =
    (significantDigits n).1 ++ List.replicate (significantDigits n).2 '0' := by
  have hz : (Nat.toDigits 10 n).reverse.takeWhile (· == '0') =
      List.replicate (significantDigits n).2 '0' := by
    refine List.eq_replicate_of_mem fun c hc => ?_
    simpa using List.mem_takeWhile_imp hc
  calc Nat.toDigits 10 n
      = ((Nat.toDigits 10 n).reverse.takeWhile (· == '0') ++
          (Nat.toDigits 10 n).reverse.dropWhile (· == '0')).reverse := by
        rw [List.takeWhile_append_dropWhile, List.reverse_reverse]
    _ = (significantDigits n).1 ++ List.replicate (significantDigits n).2 '0' := by
        rw [List.reverse_append, hz, List.reverse_replicate]
        rfl

/-- **A natural is its significant digits with zeros behind them.** -/
theorem significantDigits_spec {n : Nat} (h : 0 < n) : ∃ c cs z,
    significantDigits n = (c :: cs, z) ∧ c ≠ '0' ∧ AreDigits (c :: cs) ∧
      n = digitsValue (c :: cs) * 10 ^ z ∧ (Nat.toDigits 10 n).length = (c :: cs).length + z := by
  have hs := toDigits_eq_significant n
  have hv := digitsValue_toDigits n
  have ha := areDigits_toDigits n
  obtain ⟨d, ds, hd, hd0⟩ := head_toDigits h
  cases hc : (significantDigits n).1 with
  | nil =>
    rw [hs, hc, List.nil_append, digitsValue_zeros] at hv
    omega
  | cons c cs =>
    rw [hc] at hs
    have hcd : c = d := by
      rw [hs, List.cons_append] at hd
      exact (List.cons.inj hd).1
    refine ⟨c, cs, (significantDigits n).2, Prod.ext hc rfl, hcd ▸ hd0, ?_, ?_, ?_⟩
    · rw [hs] at ha
      exact (areDigits_append.1 ha).1
    · rw [← digitsValue_append_zeros, ← hs, hv]
    · rw [hs, List.length_append, List.length_replicate]

end Decimal

end FilterRules
