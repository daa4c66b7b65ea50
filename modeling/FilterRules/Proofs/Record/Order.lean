/-
  FilterRules — the order of numbers.

  Integers are ordered exactly and floats as binary64 numbers; an integer next to a float is
  rounded first.  So different integers can be level with one float, and what is level with a
  float need not be level with what else is.

  * `Number.toInt?` is the integer that a word stands for, and `compare_integers` says that words
    have the order of their integers, whether they are signed or not;
  * `isLessOrEqual_integers` and `isLessOrEqual_floats`: the order of two integers, and of two
    numbers one of which is a float; `toFloat_atMost`: rounding never turns two numbers round;
  * `compare_lawful`: within a kind to be level is to be the same, and the order is transitive
    but for a float between two integers that it blurs;
  * `compare_unlawful`: numbers of two kinds can be level without being the same, and the order
    is not transitive.
-/
import FilterRules.Proofs.Binary64.Order
import FilterRules.Record.Number

namespace FilterRules.Number

/-! ## Words -/

/-- The integer that a number is, if it is a word. -/
def toInt? : Number → Option Int
  | .signed n => some n.toInt
  | .unsigned n => some (n.toNat : Int)
  | .float _ => none

theorem compare_signed (m n : Int64) : Ord.compare m n = Ord.compare m.toInt n.toInt := by
  change compareOfLessAndEq m n = compareOfLessAndEq m.toInt n.toInt
  simp only [compareOfLessAndEq, Int64.lt_iff_toInt_lt, ← Int64.toInt_inj]

theorem compare_unsigned (m n : UInt64) :
    Ord.compare m n = Ord.compare (m.toNat : Int) n.toNat := by
  change compareOfLessAndEq m n = compareOfLessAndEq (m.toNat : Int) n.toNat
  simp only [compareOfLessAndEq, UInt64.lt_iff_toNat_lt, ← UInt64.toNat_inj, Int.ofNat_lt,
    Int.ofNat_inj]

/-- The unsigned word of the same bits stands for the same integer, unless it is negative. -/
theorem toNat_toUInt64 {m : Int64} (h : ¬ m < 0) : (m.toUInt64.toNat : Int) = m.toInt := by
  rw [Int64.lt_iff_toInt_lt, Int64.toInt_zero] at h
  have hb : m.toInt = if 2 * m.toUInt64.toNat < 2 ^ 64 then (m.toUInt64.toNat : Int)
      else m.toUInt64.toNat - (2 ^ 64 : Nat) := BitVec.toInt_eq_toNat_cond m.toBitVec
  have hlt := m.toUInt64.toNat_lt
  split at hb <;> omega

theorem compareSigned_eq (m : Int64) (n : UInt64) :
    compareSigned m n = Ord.compare m.toInt n.toNat := by
  unfold compareSigned
  by_cases h : m < 0
  · have hm : m.toInt < n.toNat := by
      rw [Int64.lt_iff_toInt_lt, Int64.toInt_zero] at h
      omega
    rw [if_pos h, Int.compare_eq_lt.2 hm]
  · rw [if_neg h, compare_unsigned, toNat_toUInt64 h]

section
variable {a b c : Number} {m n : Int}

/-- **Words have the order of their integers.** -/
theorem compare_integers (ha : a.toInt? = some m) (hb : b.toInt? = some n) :
    a.compare b = some (Ord.compare m n) := by
  cases a with
  | float => cases ha
  | signed i =>
    cases ha
    cases b with
    | float => cases hb
    | signed j =>
      cases hb
      rw [compare, compare_signed]
    | unsigned j =>
      cases hb
      rw [compare, compareSigned_eq]
  | unsigned i =>
    cases ha
    cases b with
    | float => cases hb
    | signed j =>
      cases hb
      rw [compare, compareSigned_eq, Int.compare_swap]
    | unsigned j =>
      cases hb
      rw [compare, compare_unsigned]

theorem compare_floats (h : a.toInt? = none ∨ b.toInt? = none) :
    a.compare b = a.toFloat.compare b.toFloat := by
  rcases h with h | h
  · cases a with
    | signed | unsigned => cases h
    | float x => cases b <;> rfl
  · cases b with
    | signed | unsigned => cases h
    | float x => cases a <;> rfl

/-! ## Order -/

theorem isLessOrEqual_iff :
    a.isLessOrEqual b = true ↔ a.compare b = some .lt ∨ a.compare b = some .eq := by
  rw [isLessOrEqual, Bool.or_eq_true, beq_iff_eq, beq_iff_eq]

theorem isLessOrEqual_integers (ha : a.toInt? = some m) (hb : b.toInt? = some n) :
    a.isLessOrEqual b = true ↔ m ≤ n := by
  rw [isLessOrEqual_iff, compare_integers ha hb, Option.some.injEq, Option.some.injEq,
    Int.compare_eq_lt, Int.compare_eq_eq]
  exact Int.le_iff_lt_or_eq.symm

theorem isLessOrEqual_floats (h : a.toInt? = none ∨ b.toInt? = none) :
    a.isLessOrEqual b = true ↔ a.toFloat.AtMost b.toFloat := by
  rw [isLessOrEqual_iff, compare_floats h, Binary64.atMost_iff]

/-- The float of a word is its integer rounded, which fits 64 bits. -/
theorem toFloat_integer (ha : a.toInt? = some m) :
    a.toFloat = Binary64.ofInt m ∧ m.natAbs ≤ 2 ^ 64 := by
  cases a with
  | float => cases ha
  | signed i =>
    cases ha
    have hle := i.le_toInt
    have hlt := i.toInt_lt
    exact ⟨rfl, by omega⟩
  | unsigned i =>
    cases ha
    have hlt := i.toNat_lt
    exact ⟨rfl, by omega⟩

theorem toFloat_mono (ha : a.toInt? = some m) (hb : b.toInt? = some n) (h : m ≤ n) :
    a.toFloat.AtMost b.toFloat := by
  obtain ⟨hma, hm⟩ := toFloat_integer ha
  obtain ⟨hnb, hn⟩ := toFloat_integer hb
  rw [hma, hnb]
  exact Binary64.ofInt_mono hm hn h

/-- **Numbers in order have floats in order.** -/
theorem toFloat_atMost (h : a.isLessOrEqual b = true) : a.toFloat.AtMost b.toFloat := by
  cases ha : a.toInt? with
  | none => exact (isLessOrEqual_floats (.inl ha)).1 h
  | some m =>
    cases hb : b.toInt? with
    | none => exact (isLessOrEqual_floats (.inr hb)).1 h
    | some n => exact toFloat_mono ha hb ((isLessOrEqual_integers ha hb).1 h)

/-! ## Laws -/

/-- Two numbers are of one kind. -/
inductive OneKind : Number → Number → Prop
  | signed {i j : Int64} : OneKind (.signed i) (.signed j)
  | unsigned {i j : UInt64} : OneKind (.unsigned i) (.unsigned j)
  | float {x y : Binary64} : OneKind (.float x) (.float y)

/-- A float to which two integers are rounded, of which the first is the greater one. -/
def Blurs (a b c : Number) : Prop :=
  ∃ x m n, b = .float x ∧ a.toInt? = some m ∧ c.toInt? = some n ∧ n < m ∧
    a.toFloat.equal x = true ∧ c.toFloat.equal x = true

/-- Numbers are the same if they are of one kind and level. -/
theorem same_iff : a.same b = true ↔ OneKind a b ∧ a.compare b = some .eq := by
  constructor
  · intro h
    cases a with
    | signed i =>
      cases b with
      | signed j =>
        rw [same, beq_iff_eq] at h
        rw [compare_integers rfl rfl, Option.some.injEq, Int.compare_eq_eq, h]
        exact ⟨.signed, rfl⟩
      | unsigned | float => cases h
    | unsigned i =>
      cases b with
      | unsigned j =>
        rw [same, beq_iff_eq] at h
        rw [compare_integers rfl rfl, Option.some.injEq, Int.compare_eq_eq, h]
        exact ⟨.unsigned, rfl⟩
      | signed | float => cases h
    | float x =>
      cases b with
      | float y => exact ⟨.float, beq_iff_eq.1 h⟩
      | signed | unsigned => cases h
  · rintro ⟨hk, h⟩
    cases hk with
    | signed =>
      rw [compare_integers rfl rfl, Option.some.injEq, Int.compare_eq_eq, Int64.toInt_inj] at h
      rw [same, beq_iff_eq, h]
    | unsigned =>
      rw [compare_integers rfl rfl, Option.some.injEq, Int.compare_eq_eq, Int.ofNat_inj,
        UInt64.toNat_inj] at h
      rw [same, beq_iff_eq, h]
    | float => exact beq_iff_eq.2 h

theorem Blurs.not_isLessOrEqual (h : Blurs a b c) : ¬ a.isLessOrEqual c = true := by
  obtain ⟨x, m, n, -, ha, hc, hlt, -⟩ := h
  rw [isLessOrEqual_integers ha hc]
  exact Int.not_le.2 hlt

/-- **Only a float between two integers can break the order.** -/
theorem isLessOrEqual_or_blurs (hab : a.isLessOrEqual b = true) (hbc : b.isLessOrEqual c = true) :
    a.isLessOrEqual c = true ∨ Blurs a b c := by
  have hfab : a.toFloat.AtMost b.toFloat := toFloat_atMost hab
  have hfbc : b.toFloat.AtMost c.toFloat := toFloat_atMost hbc
  cases ha : a.toInt? with
  | none => exact .inl ((isLessOrEqual_floats (.inl ha)).2 (hfab.trans hfbc))
  | some m =>
    cases hc : c.toInt? with
    | none => exact .inl ((isLessOrEqual_floats (.inr hc)).2 (hfab.trans hfbc))
    | some n =>
      by_cases hle : m ≤ n
      · exact .inl ((isLessOrEqual_integers ha hc).2 hle)
      · have hlt : n < m := Int.not_le.1 hle
        cases b with
        | float x =>
          -- the greater integer is not rounded below the smaller one, so both are level with `x`
          have hfca : c.toFloat.AtMost a.toFloat := toFloat_mono hc ha hlt.le
          exact .inr ⟨x, m, n, rfl, ha, hc, hlt, hfab.equal (hfbc.trans hfca),
            (hfca.trans hfab).equal hfbc⟩
        | signed | unsigned =>
          have hm := (isLessOrEqual_integers ha rfl).1 hab
          have hn := (isLessOrEqual_integers rfl hc).1 hbc
          exact absurd (hm.trans hn) hle

end

/-- **The order of numbers is lawful but for rounding.**  What is the same is level, and what is
    level is the same if it is of one kind; and the order is transitive except where a float
    stands between two integers that are rounded to it, the greater one before the smaller one. -/
theorem compare_lawful (a b c : Number) :
    (a.same b = true → a.compare b = some .eq) ∧
    (OneKind a b → a.compare b = some .eq → a.same b = true) ∧
    (a.isLessOrEqual b = true → b.isLessOrEqual c = true →
      (a.isLessOrEqual c = true ↔ ¬ Blurs a b c)) := by
  refine ⟨fun h => (same_iff.1 h).2, fun hk h => same_iff.2 ⟨hk, h⟩, fun hab hbc => ⟨?_, ?_⟩⟩
  · exact fun hac hb => hb.not_isLessOrEqual hac
  · exact fun hb => (isLessOrEqual_or_blurs hab hbc).resolve_right hb

/-- A signed word, a float and an unsigned word in order, and a float that blurs two integers. -/
theorem compare_lawful_mixed :
    (Number.signed (-1)).isLessOrEqual (.float ⟨0x4340000000000000⟩) = true ∧
    (Number.float ⟨0x4340000000000000⟩).isLessOrEqual (.unsigned 18446744073709551615) = true ∧
    (Number.signed (-1)).isLessOrEqual (.unsigned 18446744073709551615) = true ∧
    OneKind (.float ⟨0⟩) (.float ⟨0x8000000000000000⟩) ∧
    (Number.float ⟨0⟩).same (.float ⟨0x8000000000000000⟩) = true ∧
    Blurs (.signed 9007199254740993) (.float ⟨0x4340000000000000⟩)
      (.unsigned 9007199254740992) := by
  have hab : (Number.signed (-1)).isLessOrEqual (.float ⟨0x4340000000000000⟩) = true := by decide
  have hbc : (Number.float ⟨0x4340000000000000⟩).isLessOrEqual
      (.unsigned 18446744073709551615) = true := by decide
  refine ⟨hab, hbc, ?_, .float, ?_, ?_⟩
  · obtain ⟨-, -, htrans⟩ := compare_lawful (.signed (-1)) (.float ⟨0x4340000000000000⟩)
      (.unsigned 18446744073709551615)
    refine (htrans hab hbc).2 ?_
    rintro ⟨x, m, n, -, ha, hc, hlt, -⟩
    cases ha
    cases hc
    exact absurd hlt (by decide)
  · obtain ⟨-, hsame, -⟩ := compare_lawful (.float ⟨0⟩) (.float ⟨0x8000000000000000⟩) (.float ⟨0⟩)
    exact hsame .float (by decide)
  · obtain ⟨-, -, htrans⟩ := compare_lawful (.signed 9007199254740993)
      (.float ⟨0x4340000000000000⟩) (.unsigned 9007199254740992)
    by_contra hb
    exact absurd ((htrans (by decide) (by decide)).2 hb) (by decide)

/-- A signed and an unsigned five are level and not the same, and the float next to two integers
    stands behind the greater one and before the smaller one. -/
theorem compare_unlawful :
    ¬ ((Number.signed 5).same (.unsigned 5) = true ↔
      (Number.signed 5).compare (.unsigned 5) = some .eq) ∧
    ¬ ((Number.signed 9007199254740993).isLessOrEqual (.float ⟨0x4340000000000000⟩) = true →
      (Number.float ⟨0x4340000000000000⟩).isLessOrEqual (.signed 9007199254740992) = true →
      (Number.signed 9007199254740993).isLessOrEqual (.signed 9007199254740992) = true) := by
  decide

end FilterRules.Number
