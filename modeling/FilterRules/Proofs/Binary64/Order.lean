/-
  FilterRules — rounding integers keeps their order.

  Integers can be rounded to one float, but never to floats that stand the other way round.

  * `AtMost` says that two floats are numbers and that one does not stand behind the other; it
    is transitive (`AtMost.trans`);
  * `rank_ofMagnitude`: the place on the line of a sign and a magnitude;
  * `wholeMagnitude_mono` and `wholeMagnitude_lt`: the magnitude of a whole number, which is finite
    for all that fit 64 bits;
  * `ofInt_mono`: of two integers of 64 bits, the smaller one is not rounded to a greater float.
-/
import FilterRules.Proofs.Binary64.Rounding

namespace FilterRules.Binary64

/-! ## Order -/

/-- Both floats are numbers, and the first one does not stand behind the second one. -/
def AtMost (x y : Binary64) : Prop := x.isNaN = false ∧ y.isNaN = false ∧ x.rank ≤ y.rank

theorem AtMost.trans {x y z : Binary64} (h : x.AtMost y) (h' : y.AtMost z) : x.AtMost z :=
  ⟨h.1, h'.2.1, h.2.2.trans h'.2.2⟩

theorem compare_of_numbers {x y : Binary64} (hx : x.isNaN = false) (hy : y.isNaN = false) :
    x.compare y = some (Ord.compare x.rank y.rank) := by
  rw [compare, hx, hy]
  rfl

theorem atMost_iff {x y : Binary64} :
    x.AtMost y ↔ x.compare y = some .lt ∨ x.compare y = some .eq := by
  constructor
  · rintro ⟨hx, hy, h⟩
    rw [compare_of_numbers hx hy, Option.some.injEq, Option.some.injEq, Int.compare_eq_lt,
      Int.compare_eq_eq]
    exact Int.lt_or_eq_of_le h
  · intro h
    by_cases hn : x.isNaN || y.isNaN
    · rw [compare, if_pos hn] at h
      simp at h
    · obtain ⟨hx, hy⟩ : x.isNaN = false ∧ y.isNaN = false := by simpa using hn
      rw [compare_of_numbers hx hy, Option.some.injEq, Option.some.injEq, Int.compare_eq_lt,
        Int.compare_eq_eq] at h
      exact ⟨hx, hy, by omega⟩

/-- Floats that do not stand behind each other are equal. -/
theorem AtMost.equal {x y : Binary64} (h : x.AtMost y) (h' : y.AtMost x) : x.equal y = true := by
  obtain ⟨hx, hy, hle⟩ := h
  have hr : x.rank = y.rank := Int.le_antisymm hle h'.2.2
  rw [Binary64.equal, compare_of_numbers hx hy, hr, Int.compare_eq_eq.2 rfl]
  rfl

/-! ## Whole numbers -/

theorem rank_ofMagnitude {m : Nat} (negative : Bool) (h : m < 0x8000000000000000) :
    (ofMagnitude negative m).rank = if negative then -(m : Int) else m := by
  rw [rank, isNegative_ofMagnitude negative h, magnitude_ofMagnitude negative h]

/-- The magnitude of the float nearest to a whole number. -/
def wholeMagnitude (n : Nat) : Nat := if n = 0 then 0 else roundMagnitude n 1

theorem ofInt_eq (n : Int) : ofInt n = ofMagnitude (decide (n < 0)) (wholeMagnitude n.natAbs) := by
  rw [ofInt, ofNat, wholeMagnitude]
  split <;> rfl

theorem wholeMagnitude_mono {m n : Nat} (h : m ≤ n) : wholeMagnitude m ≤ wholeMagnitude n := by
  unfold wholeMagnitude
  by_cases hm : m = 0
  · rw [if_pos hm]
    exact Nat.zero_le _
  · have hn : n ≠ 0 := by omega
    rw [if_neg hm, if_neg hn]
    refine roundMagnitude_mono (Nat.pos_of_ne_zero hm) Nat.one_pos (Nat.pos_of_ne_zero hn)
      Nat.one_pos ?_
    simpa using h

/-- A whole number of 64 bits is rounded to a finite float. -/
theorem wholeMagnitude_lt {n : Nat} (h : n ≤ 2 ^ 64) : wholeMagnitude n < infinityMagnitude :=
  (wholeMagnitude_mono h).trans_lt (by decide)

/-! ## Integers -/

section
variable {m n : Int}

theorem isNaN_ofInt (h : n.natAbs ≤ 2 ^ 64) : (ofInt n).isNaN = false := by
  have hlt := wholeMagnitude_lt h
  rw [ofInt_eq, isNaN, magnitude_ofMagnitude _ (hlt.trans (by decide)), decide_eq_false_iff_not]
  exact Nat.not_lt.2 hlt.le

theorem rank_ofInt (h : n.natAbs ≤ 2 ^ 64) : (ofInt n).rank =
    if n < 0 then -(wholeMagnitude n.natAbs : Int) else wholeMagnitude n.natAbs := by
  rw [ofInt_eq, rank_ofMagnitude _ ((wholeMagnitude_lt h).trans (by decide))]
  simp only [decide_eq_true_eq]

/-- **The smaller one of two integers is not rounded to a greater float.** -/
theorem ofInt_mono (hm : m.natAbs ≤ 2 ^ 64) (hn : n.natAbs ≤ 2 ^ 64) (h : m ≤ n) :
    (ofInt m).AtMost (ofInt n) := by
  refine ⟨isNaN_ofInt hm, isNaN_ofInt hn, ?_⟩
  rw [rank_ofInt hm, rank_ofInt hn]
  by_cases hm0 : m < 0
  · by_cases hn0 : n < 0
    · -- below zero the smaller integer has the greater magnitude
      have hle := wholeMagnitude_mono (show n.natAbs ≤ m.natAbs by omega)
      rw [if_pos hm0, if_pos hn0]
      omega
    · rw [if_pos hm0, if_neg hn0]
      omega
  · have hn0 : ¬ n < 0 := by omega
    have hle := wholeMagnitude_mono (show m.natAbs ≤ n.natAbs by omega)
    rw [if_neg hm0, if_neg hn0]
    omega

end

end FilterRules.Binary64
