/-
  FilterRules — dual rules.

  The dual of a rule asks for the opposite: it has `OR` where the rule has `AND` and the other
  way round, and each of its operators is the complement of the rule's.

  * `Operator.complement?` pairs a negation with what it negates (`negated?_complement`); the
    operators that order things have no complement;
  * `Rule.dual` is the dual of a rule, and `Rule.HasDual` says that all groups of a rule have
    rules and all its operators complements;
  * `Comparison.matchesValue_dual` and `Rule.evaluate_dual`: a comparison and its dual have
    opposite answers, and so have a rule and its dual where their comparisons have;
  * `matchesRecord_dual`: a rule and its dual divide the records between them.
-/
import FilterRules.Matching
import FilterRules.Proofs.Rule.Evaluation
import Mathlib.Data.List.Basic

namespace FilterRules

/-! ## Complements -/

/-- The other condition. -/
def Condition.dual : Condition → Condition
  | .and => .or
  | .or => .and

/-- The operator that holds where an operator does not. -/
def Operator.complement? : Operator → Option Operator
  | .equal => some .notEqual
  | .notEqual => some .equal
  | .isIn => some .notIn
  | .notIn => some .isIn
  | .beginsWith => some .notBeginsWith
  | .notBeginsWith => some .beginsWith
  | .contains => some .notContains
  | .notContains => some .contains
  | .endsWith => some .notEndsWith
  | .notEndsWith => some .endsWith
  | .isEmpty => some .isNotEmpty
  | .isNotEmpty => some .isEmpty
  | .isNull => some .isNotNull
  | .isNotNull => some .isNull
  | .exist => some .notExist
  | .notExist => some .exist
  | .less | .lessOrEqual | .greater | .greaterOrEqual | .datetimeLess | .datetimeLessOrEqual
  | .datetimeGreater | .datetimeGreaterOrEqual => none

/-- Of an operator and its complement, one is the negation of the other, which is none. -/
theorem Operator.negated?_complement {op co : Operator} (h : op.complement? = some co) :
    (op.negated? = some co ∧ co.negated? = none) ∨
      (op.negated? = none ∧ co.negated? = some op) := by
  cases op with
  | notEqual | notIn | notBeginsWith | notContains | notEndsWith | isNotEmpty | isNotNull
  | notExist =>
    cases h
    exact .inl ⟨rfl, rfl⟩
  | equal | isIn | beginsWith | contains | endsWith | isEmpty | isNull | exist =>
    cases h
    exact .inr ⟨rfl, rfl⟩
  | _ => cases h

namespace Comparison

/-- The comparison by the complement of its operator; one that has none stays as it is. -/
def dual (c : Comparison) : Comparison :=
  match c.operator?.bind Operator.complement? with
  | some co => .ofOperator c.field co c.value
  | none => c

/-- The operator of a comparison has a complement. -/
def HasDual (c : Comparison) : Prop :=
  ∃ op co, c.operator? = some op ∧ op.complement? = some co

/-- **A comparison and its dual have opposite answers**, whatever their value is. -/
theorem matchesValue_dual {c : Comparison} (h : c.HasDual) (field : FieldValue) :
    c.dual.matchesValue field = !c.matchesValue field := by
  obtain ⟨op, co, ho, hco⟩ := h
  have hd : c.dual = .ofOperator c.field co c.value := by
    simp only [dual, ho, Option.bind_some, hco]
  have hop : c.dual.operator? = some co := by rw [hd]; exact Operator.ofName_name co
  have hv : c.dual.value = c.value := by rw [hd]; rfl
  rcases Operator.negated?_complement hco with ⟨hn, hn'⟩ | ⟨hn, hn'⟩
  · simp only [matchesValue, ho, hop, hv, hn, hn', Bool.not_not]
  · simp only [matchesValue, ho, hop, hv, hn, hn']

theorem field_dual (c : Comparison) : c.dual.field = c.field := by
  unfold dual
  split <;> rfl

end Comparison

/-! ## Rules -/

namespace Rule

mutual

/-- The rule with the other conditions and the complements of its operators. -/
def dual : Rule → Rule
  | .comparison c => .comparison c.dual
  | .group condition rules => .group condition.dual (dualList rules)

/-- The duals of some rules. -/
def dualList : List Rule → List Rule
  | [] => []
  | rule :: rules => rule.dual :: dualList rules

end

theorem dualList_eq (rules : List Rule) : dualList rules = rules.map dual := by
  induction rules with
  | nil => rfl
  | cons r rules ih => rw [dualList, ih, List.map_cons]

/-- Every group of a rule has rules, and every operator a complement. -/
inductive HasDual : Rule → Prop
  | comparison {c} : c.HasDual → HasDual (.comparison c)
  | group {condition rules} : rules ≠ [] → (∀ r ∈ rules, HasDual r) →
      HasDual (.group condition rules)

/-- **Opposite answers of the comparisons make opposite answers of a rule and its dual.** -/
theorem evaluate_dual {holds : Comparison → Bool}
    (hd : ∀ c : Comparison, c.HasDual → holds c.dual = !holds c) {rule : Rule}
    (h : rule.HasDual) : rule.dual.evaluate holds = !rule.evaluate holds := by
  induction rule with
  | comparison c =>
    cases h with
    | comparison h => exact hd c h
  | group condition rules ih =>
    cases h with
    | group hne h =>
      have hr : ∀ r ∈ rules, r.dual.evaluate holds = !r.evaluate holds :=
        fun r hm => ih r hm (h r hm)
      have hne' : rules.map dual ≠ [] := by simpa using hne
      rw [dual, dualList_eq]
      -- an empty group is a yes under both conditions, so only groups with rules have duals
      cases condition with
      | and =>
        rw [Condition.dual, evaluate_or holds hne', evaluate_and, List.not_all_eq_any_not,
          List.any_map, Bool.eq_iff_iff, List.any_eq_true, List.any_eq_true]
        exact exists_congr fun r => and_congr_right fun hm => by rw [Function.comp_apply, hr r hm]
      | or =>
        rw [Condition.dual, evaluate_or holds hne, evaluate_and, List.not_any_eq_all_not,
          List.all_map, Bool.eq_iff_iff, List.all_eq_true, List.all_eq_true]
        exact forall₂_congr fun r hm => by rw [Function.comp_apply, hr r hm]

/-- **A rule and its dual divide the records between them.** -/
theorem matchesRecord_dual {rule : Rule} (h : rule.HasDual) :
    (∀ record : Record, rule.dual.matchesRecord record = !rule.matchesRecord record) ∧
    ∀ (α : Type) (record : α → Record) (records : List α),
      (rule.dual.filter record records).Disjoint (rule.filter record records) ∧
      (rule.dual.filter record records ++ rule.filter record records).Perm records := by
  have hm (record : Record) : rule.dual.matchesRecord record = !rule.matchesRecord record :=
    evaluate_dual (fun c hc => by rw [c.field_dual, Comparison.matchesValue_dual hc]) h
  refine ⟨hm, fun α record records => ⟨?_, ?_⟩⟩
  · intro r hd hr
    have hd := List.of_mem_filter hd
    have hr := List.of_mem_filter hr
    rw [hm, hr] at hd
    cases hd
  · simp only [filter, hm]
    exact List.perm_append_comm.trans (List.filter_append_perm _ _)

/-- A rule, one of its values such that its operator cannot use it, and its dual divide three
    records. -/
theorem matchesRecord_dual_mistyped :
    let rule := group .and [
      .comparison ⟨"tags", "not_contains", .string "a"⟩,
      .group .or [.comparison ⟨"", "in", .null⟩, .comparison ⟨"os.name", "exist", .null⟩]]
    let dual := group .or [
      .comparison ⟨"tags", "contains", .string "a"⟩,
      .group .and [.comparison ⟨"", "not_in", .null⟩,
        .comparison ⟨"os.name", "not_exist", .null⟩]]
    let values : List FieldValue := [.missing, .array [.string "bar"], .string "b"]
    rule.HasDual ∧ rule.dual = dual ∧
      (∀ value, dual.matchesRecord (fun _ => value) = !rule.matchesRecord fun _ => value) ∧
      rule.filter (fun value _ => value) values = [FieldValue.string "b"] ∧
      (dual.filter (fun value _ => value) values ++ [FieldValue.string "b"]).Perm values := by
  intro rule dual values
  have h : rule.HasDual := by
    refine .group (by simp) (List.forall_mem_cons.2 ⟨?_, List.forall_mem_singleton.2 ?_⟩)
    · exact .comparison ⟨.notContains, .contains, by decide, rfl⟩
    · refine .group (by simp) (List.forall_mem_cons.2 ⟨?_, List.forall_mem_singleton.2 ?_⟩)
      · exact .comparison ⟨.isIn, .notIn, by decide, rfl⟩
      · exact .comparison ⟨.exist, .notExist, by decide, rfl⟩
  have hd : rule.dual = dual := by decide
  have hf : rule.filter (fun value _ => value) values = [FieldValue.string "b"] := by decide
  obtain ⟨hm, hp⟩ := matchesRecord_dual h
  rw [hd] at hm hp
  exact ⟨h, hd, fun value => hm _, hf, hf ▸ (hp _ (fun value _ => value) values).2⟩

end Rule

end FilterRules
