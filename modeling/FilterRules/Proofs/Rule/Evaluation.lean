/-
  FilterRules — the answers of groups.

  * `evaluate_comparison`, `evaluate_and` and `evaluate_or`: the answer of a rule
    to a predicate, from the answers of its parts.  Where asking has no effect the
    end of the asking does not show;
  * `evaluate_decisive_iff`: the answer of a group under either condition, and
    `evaluate_group_congr`: it is a matter of which answers its rules give, and not of
    how often or in which order.
-/
import FilterRules.Proofs.Rule.Structure
import FilterRules.Rule.Evaluation

namespace FilterRules.Rule

variable (holds : Comparison → Bool)

theorem evaluate_comparison (c : Comparison) : (comparison c).evaluate holds = holds c := rfl

theorem evaluateListM_and (rules : List Rule) :
    Id.run (evaluateListM (fun c => pure (holds c)) .and rules) =
      rules.all fun r => r.evaluate holds := by
  induction rules with
  | nil => rfl
  | cons r rules ih =>
    rw [evaluateListM, List.all_cons, ← ih]
    change (if r.evaluate holds = false then r.evaluate holds else _) = _
    cases r.evaluate holds <;> rfl

theorem evaluateListM_or (rules : List Rule) :
    Id.run (evaluateListM (fun c => pure (holds c)) .or rules) =
      rules.any fun r => r.evaluate holds := by
  induction rules with
  | nil => rfl
  | cons r rules ih =>
    rw [evaluateListM, List.any_cons, ← ih]
    change (if r.evaluate holds = true then r.evaluate holds else _) = _
    cases r.evaluate holds <;> rfl

theorem evaluate_and (rules : List Rule) :
    (group .and rules).evaluate holds = rules.all fun r => r.evaluate holds := by
  cases rules with
  | nil => rfl
  | cons r rules => rw [evaluate, evaluateM, evaluateListM_and]

theorem evaluate_or {rules : List Rule} (h : rules ≠ []) :
    (group .or rules).evaluate holds = rules.any fun r => r.evaluate holds := by
  cases rules with
  | nil => exact absurd rfl h
  | cons r rules => rw [evaluate, evaluateM, evaluateListM_or]

variable {holds}

/-- A group with rules is decided by one of them. -/
theorem evaluate_decisive_iff {condition : Condition} {rules : List Rule} (h : rules ≠ []) :
    (group condition rules).evaluate holds = condition.decisive ↔
      ∃ r ∈ rules, r.evaluate holds = condition.decisive := by
  cases condition with
  | and => rw [evaluate_and, Condition.decisive, List.all_eq_false]; simp
  | or => rw [evaluate_or holds h, Condition.decisive, List.any_eq_true]

/-- Groups with rules have one answer, if a rule of either decides where one of the other does. -/
theorem evaluate_group_congr {condition : Condition} {rules rules' : List Rule} (h : rules ≠ [])
    (h' : rules' ≠ []) (hd : (∃ r ∈ rules, r.evaluate holds = condition.decisive) ↔
      ∃ r ∈ rules', r.evaluate holds = condition.decisive) :
    (group condition rules).evaluate holds = (group condition rules').evaluate holds := by
  rw [← evaluate_decisive_iff h, ← evaluate_decisive_iff h'] at hd
  cases condition with
  | and =>
    rw [Condition.decisive, ← Bool.not_eq_true, ← Bool.not_eq_true, not_iff_not] at hd
    exact Bool.eq_iff_iff.2 hd
  | or => exact Bool.eq_iff_iff.2 hd

end FilterRules.Rule
