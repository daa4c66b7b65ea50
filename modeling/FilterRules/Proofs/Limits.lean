/-
  FilterRules — tighter limits.

  Limits decide whether a rule is compiled, and not what becomes of it.

  * `Limits.Tightens` says that limits leave no more room than others: no more levels, and no
    operator that the others do not allow;
  * `Rule.Fails.loosened` and `Rule.Passes.loosened`: a node that fails under the tighter limits
    fails alike under the looser ones, or has an operator that the tighter ones disable;
  * `lower_loosened`: a filter under the tighter limits is the filter under the looser ones;
  * `FirstFailure.tightened`: the first failure under the tighter limits is that under the looser
    ones, or a disabled operator no later than that, which then `Forestalls` it;
  * `compile_tightened` joins these.
-/
import FilterRules.Proofs.Filter.Lowering

namespace FilterRules

/-! ## Limits -/

/-- Limits leave no more room than looser ones do. -/
structure Limits.Tightens (tight loose : Limits) : Prop where
  depth : tight.maxDepth ≤ loose.maxDepth
  disabled : ∀ op ∈ loose.disabled, op ∈ tight.disabled

section
variable {tight loose : Limits} (ht : tight.Tightens loose)
include ht

theorem Limits.Tightens.allows {op : Operator} (h : tight.allows op = true) :
    loose.allows op = true := by
  simp only [Limits.allows, Bool.and_eq_true, Bool.not_eq_true', List.contains_eq_mem,
    decide_eq_false_iff_not] at h ⊢
  exact ⟨h.1, mt (ht.disabled op) h.2⟩

/-! ## Nodes -/

theorem Comparison.check_loosened {c : Comparison} {op : Operator}
    (h : c.check tight = .ok op) : c.check loose = .ok op := by
  obtain ⟨hf, ho, ha, hs⟩ := check_ok_iff.1 h
  exact check_ok_iff.2 ⟨hf, ho, ht.allows ha, hs⟩

namespace Rule

/-- A node fails alike under looser limits, unless it is its operator that is disabled. -/
theorem Fails.loosened {node : Rule} {key : String} {cause : RuleError.Cause}
    (h : node.Fails tight key cause) :
    node.Fails loose key cause ∨ key = "operator" ∧ ∃ op, cause = .disabledOperator op := by
  cases h with
  | emptyGroup => exact .inl .emptyGroup
  | comparison h =>
    cases h with
    | field hf => exact .inl (.comparison (.field hf))
    | unknown hf ho => exact .inl (.comparison (.unknown hf ho))
    | disabled => exact .inr ⟨rfl, _, rfl⟩
    | value hf ho ha hv => exact .inl (.comparison (.value hf ho (ht.allows ha) hv))

theorem Passes.loosened {node : Rule} (h : node.Passes tight) : node.Passes loose := by
  cases node with
  | comparison c =>
    obtain ⟨op, hc⟩ := passes_comparison.1 h
    exact passes_comparison.2 ⟨op, Comparison.check_loosened ht hc⟩
  | group condition rules => exact passes_group.2 (passes_group.1 h)

/-! ## Rules -/

variable {rule : Rule}

theorem validate_loosened (h : rule.validate tight = .ok ()) : rule.validate loose = .ok () := by
  obtain ⟨hd, hc⟩ := validate_ok_iff.1 h
  refine validate_ok_iff.2 ⟨Nat.le_trans hd ht.depth, check_ok_iff.2 fun address node hn => ?_⟩
  exact (check_ok_iff.1 hc address node hn).loosened ht

/-- A filter is the same under looser limits. -/
theorem lower_loosened {filter : Filter} (h : rule.lower tight = .ok filter) :
    rule.lower loose = .ok filter := by
  induction rule generalizing filter with
  | comparison c =>
    obtain ⟨op, clause, hc, hv, rfl⟩ := lower_comparison_iff.1 h
    exact lower_comparison_iff.2 ⟨op, clause, Comparison.check_loosened ht hc, hv, rfl⟩
  | group condition rules ih =>
    obtain ⟨filters, hf, rfl⟩ := lower_group_iff.1 h
    have hr : ∀ r ∈ rules, ∀ f, r.lower tight = .ok f → r.lower loose = .ok f :=
      fun r hm f h => ih r hm h
    exact lower_group_iff.2 ⟨filters,
      ((List.forall₂_and_left _ _).2 ⟨hr, hf⟩).imp fun r f h => h.1 f h.2, rfl⟩

/-- Tightening the limits puts a disabled operator before the first failure, or in the place of
    it, or leaves it as it is. -/
theorem FirstFailure.tightened {a b : List Nat} {key key' : String}
    {cause cause' : RuleError.Cause} (h : rule.FirstFailure loose b key cause)
    (h' : rule.FirstFailure tight a key' cause') :
    (a = b ∧ key' = key ∧ cause' = cause) ∨
      (a = b ∨ Precedes a b) ∧ key' = "operator" ∧ ∃ op, cause' = .disabledOperator op := by
  obtain ⟨node, hn, hf⟩ := h.fails
  obtain ⟨node', hn', hf'⟩ := h'.fails
  rcases precedes_trichotomy a b with hp | rfl | hp
  · -- before its first failure nothing fails under the looser limits
    have hpass : node'.Passes loose := h.earlier a node' hp hn'
    exact .inr ⟨.inr hp, (hf'.loosened ht).resolve_left (hpass _ _)⟩
  · obtain rfl : node = node' := Option.some.inj (hn.symm.trans hn')
    rcases hf'.loosened ht with hl | hl
    · exact .inl ⟨rfl, hl.unique hf⟩
    · exact .inr ⟨.inl rfl, hl⟩
  · -- a node that passes under the tighter limits passes under the looser ones
    exact absurd hf ((h'.earlier b node hp hn).loosened ht key cause)

/-- Under tighter limits an operator is disabled at the node of an error under looser limits, or
    at a node before it. -/
def Forestalls (tight loose : Limits) (rule : Rule) (e' e : RuleError) : Prop :=
  ∃ address failing key op,
    rule.FirstFailure tight address "operator" (.disabledOperator op) ∧
    e' = ⟨pathTo address "operator", .disabledOperator op⟩ ∧
    rule.FirstFailure loose failing key e.cause ∧ e.path = pathTo failing key ∧
    (address = failing ∨ Precedes address failing)

theorem Verdict.tightened {e e' : RuleError} (h : rule.Verdict loose (.error e))
    (h' : rule.Verdict tight (.error e')) :
    e' = e ∨ e' = ⟨"", .tooDeep rule.depth tight.maxDepth⟩ ∨ Forestalls tight loose rule e' e := by
  cases h' with
  | tooDeep => exact .inr (.inl rfl)
  | failure hd hf' =>
    cases h with
    | tooDeep hdeep => exact absurd (Nat.le_trans hd ht.depth) (Nat.not_le.2 hdeep)
    | failure _ hf =>
      rcases hf.tightened ht hf' with ⟨rfl, rfl, rfl⟩ | ⟨hp, rfl, op, rfl⟩
      · exact .inl rfl
      · exact .inr (.inr ⟨_, _, _, op, hf', rfl, hf, rfl, hp⟩)

/-- **Limits gate and do not shape.**  What is compiled under the tighter limits is compiled to
    the same filter under the looser ones.  What fails under the looser limits fails under the
    tighter ones, whatever the error is: with the same error, or since the rule is too deep, or at
    a disabled operator that is met no later. -/
theorem compile_tightened (rule : Rule) :
    (∀ filter, rule.compile tight = .ok filter →
      rule.validate loose = .ok () ∧ rule.compile loose = .ok filter) ∧
    ∀ e, rule.compile loose = .error e → ∃ e', rule.compile tight = .error e' ∧
      (e' = e ∨ e' = ⟨"", .tooDeep rule.depth tight.maxDepth⟩ ∨
        Forestalls tight loose rule e' e) := by
  constructor
  · intro filter h
    obtain ⟨hv, hl⟩ := compile_ok_iff.1 h
    have hv' : rule.validate loose = .ok () := validate_loosened ht hv
    exact ⟨hv', compile_ok_iff.2 ⟨hv', lower_loosened ht hl⟩⟩
  · intro e h
    have hv : rule.validate loose = .error e := validate_of_compile_error h
    have hloose : rule.Verdict loose (.error e) := hv ▸ validate_verdict loose rule
    cases hv' : rule.validate tight with
    | ok =>
      rw [validate_loosened ht hv'] at hv
      cases hv
    | error e' =>
      have htight : rule.Verdict tight (.error e') := hv' ▸ validate_verdict tight rule
      exact ⟨e', compile_of_validate_error hv', hloose.tightened ht htight⟩

omit ht

/-- A rule that the tighter limits leave as it is, and one in which they disable an operator
    before a wrong value. -/
theorem compile_tightened_earlier :
    let tight : Limits := ⟨2, [.contains, .exist]⟩
    let loose : Limits := ⟨4, [.exist, .exist]⟩
    let plain := group .or [.comparison ⟨"name", "equal", .string "x"⟩]
    let wrong := group .and
      [.comparison ⟨"tags", "contains", .string "a"⟩, .comparison ⟨"age", "less", .null⟩]
    let e : RuleError := ⟨"rules[1].value", .invalidValue .less⟩
    let e' : RuleError := ⟨"rules[0].operator", .disabledOperator .contains⟩
    tight.Tightens loose ∧
      (∃ filter, plain.compile tight = .ok filter ∧ plain.compile loose = .ok filter) ∧
      wrong.compile loose = .error e ∧ wrong.compile tight = .error e' ∧
      Forestalls tight loose wrong e' e := by
  intro tight loose plain wrong e e'
  have ht : tight.Tightens loose := ⟨by decide, by decide⟩
  have hp : plain.compile tight = .ok (.or [.field "name" (.eq (.string "x"))]) := rfl
  have he : wrong.compile loose = .error e := rfl
  have he' : wrong.compile tight = .error e' := rfl
  refine ⟨ht, ⟨_, hp, ((compile_tightened ht plain).1 _ hp).2⟩, he, he', ?_⟩
  obtain ⟨found, hc, h⟩ := (compile_tightened ht wrong).2 e he
  obtain rfl : e' = found := Except.error.inj (he'.symm.trans hc)
  rcases h with h | h | h
  · cases congrArg RuleError.cause h
  · cases congrArg RuleError.cause h
  · exact h

end Rule

end

end FilterRules
