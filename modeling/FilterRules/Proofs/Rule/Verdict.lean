/-
  FilterRules — the verdict on a rule.

  Each node of a rule has a check of its own: a group must not be empty, and a
  comparison must have a field name, an operator that may be used and a value
  that the operator can use.

  * `Comparison.Fails` and `Rule.Fails` say which key of a node fails and why;
    of several faults of a node only the first one counts, so that a node fails
    in one way (`Rule.Fails.unique`);
  * `FirstFailure` is a failing node that no failing node precedes;
  * `Verdict` is what there is to say about a rule: it is too deep, or every node
    passes, or there is a first failure, whose path leads from the root to the
    node and on to the key;
  * `validate_eq_iff`: validation gives the verdict, and nothing else.
-/
import FilterRules.Proofs.Preorder
import FilterRules.Proofs.Rule.Shape

namespace FilterRules

/-! ## Nodes -/

/-- A comparison fails at a key. -/
inductive Comparison.Fails (limits : Limits) (c : Comparison) : String → RuleError.Cause → Prop
  | field : isFieldName c.field = false → Fails limits c "field" (.invalidField c.field)
  | unknown : isFieldName c.field = true → c.operator? = none →
      Fails limits c "operator" (.unknownOperator c.operatorName)
  | disabled {op} : isFieldName c.field = true → c.operator? = some op →
      limits.allows op = false → Fails limits c "operator" (.disabledOperator op)
  | value {op cause} : isFieldName c.field = true → c.operator? = some op →
      limits.allows op = true → op.Rejects c.value cause → Fails limits c "value" cause

theorem Comparison.check_error_iff {limits : Limits} {c : Comparison} {e : RuleError} :
    c.check limits = .error e ↔ c.Fails limits e.path e.cause := by
  constructor
  · intro h
    unfold Comparison.check at h
    cases hf : isFieldName c.field with
    | false => simp [hf] at h; subst h; exact .field hf
    | true =>
      cases ho : c.operator? with
      | none => simp [hf, ho] at h; subst h; exact .unknown hf ho
      | some op =>
        cases ha : limits.allows op with
        | false => simp [hf, ho, ha] at h; subst h; exact .disabled hf ho ha
        | true =>
          cases hv : checkValue op c.value with
          | ok => simp [hf, ho, ha, hv] at h
          | error cause =>
            simp [hf, ho, ha, hv] at h
            subst h
            exact .value hf ho ha (checkValue_error_iff.1 hv)
  · obtain ⟨path, cause⟩ := e
    intro h
    unfold Comparison.check
    cases h with
    | field hf => simp [hf]
    | unknown hf ho => simp [hf, ho]
    | disabled hf ho ha => simp [hf, ho, ha]
    | value hf ho ha hv => simp [hf, ho, ha, checkValue_error_iff.2 hv]

theorem Comparison.check_ok_iff {limits : Limits} {c : Comparison} {op : Operator} :
    c.check limits = .ok op ↔ isFieldName c.field = true ∧ c.operator? = some op ∧
      limits.allows op = true ∧ op.shape.Fits c.value := by
  constructor
  · intro h
    unfold Comparison.check at h
    cases hf : isFieldName c.field with
    | false => simp [hf] at h
    | true =>
      cases ho : c.operator? with
      | none => simp [hf, ho] at h
      | some op' =>
        cases ha : limits.allows op' with
        | false => simp [hf, ho, ha] at h
        | true =>
          cases hv : checkValue op' c.value with
          | error cause => simp [hf, ho, ha, hv] at h
          | ok =>
            simp [hf, ho, ha, hv] at h
            subst h
            exact ⟨rfl, rfl, ha, checkValue_ok_iff.1 hv⟩
  · rintro ⟨hf, ho, ha, hs⟩
    simp [Comparison.check, hf, ho, ha, checkValue_ok_iff.2 hs]

namespace Rule

/-- A node of a rule fails at a key. -/
inductive Fails (limits : Limits) : Rule → String → RuleError.Cause → Prop
  | emptyGroup {condition} : Fails limits (.group condition []) "rules" .emptyGroup
  | comparison {c key cause} : c.Fails limits key cause → Fails limits (.comparison c) key cause

/-- A node of a rule does not fail. -/
def Passes (limits : Limits) (node : Rule) : Prop := ∀ key cause, ¬ node.Fails limits key cause

theorem passes_comparison {limits : Limits} {c : Comparison} :
    (comparison c).Passes limits ↔ ∃ op, c.check limits = .ok op := by
  constructor
  · intro h
    cases hc : c.check limits with
    | ok op => exact ⟨op, rfl⟩
    | error e => exact absurd (.comparison (Comparison.check_error_iff.1 hc)) (h e.path e.cause)
  · rintro ⟨op, h⟩ key cause hf
    cases hf with
    | comparison hf =>
      have : c.check limits = .error ⟨key, cause⟩ := Comparison.check_error_iff.2 hf
      rw [h] at this
      cases this

theorem passes_group {limits : Limits} {condition : Condition} {rules : List Rule} :
    (group condition rules).Passes limits ↔ rules ≠ [] := by
  constructor
  · rintro h rfl
    exact h _ _ .emptyGroup
  · intro h key cause hf
    cases hf
    exact h rfl

/-- A node fails in one way. -/
theorem Fails.unique {limits : Limits} {node : Rule} {key key' : String}
    {cause cause' : RuleError.Cause} (h : node.Fails limits key cause)
    (h' : node.Fails limits key' cause') : key = key' ∧ cause = cause' := by
  cases h with
  | emptyGroup => cases h'; exact ⟨rfl, rfl⟩
  | @comparison c _ _ h =>
    cases h' with
    | comparison h' =>
      have hc : c.check limits = .error ⟨key, cause⟩ := Comparison.check_error_iff.2 h
      have hc' : c.check limits = .error ⟨key', cause'⟩ := Comparison.check_error_iff.2 h'
      rw [hc] at hc'
      cases hc'
      exact ⟨rfl, rfl⟩

theorem Fails.key_ne {limits : Limits} {node : Rule} {key : String} {cause : RuleError.Cause}
    (h : node.Fails limits key cause) : key ≠ "" := by
  cases h with
  | emptyGroup => decide
  | comparison h => cases h <;> decide

/-! ## The first failure -/

/-- The path from the root to the node at an address, and on to a key of it. -/
def pathTo : (address : List Nat) → (key : String) → String
  | [], key => key
  | index :: address, key => "rules[" ++ toString index ++ "]." ++ pathTo address key

/-- The node at an address fails, and no node before it does. -/
structure FirstFailure (limits : Limits) (rule : Rule) (address : List Nat) (key : String)
    (cause : RuleError.Cause) : Prop where
  fails : ∃ node, rule.at? address = some node ∧ node.Fails limits key cause
  earlier : ∀ a node, Precedes a address → rule.at? a = some node → node.Passes limits

/-- What there is to say about a rule. -/
inductive Verdict (limits : Limits) (rule : Rule) : Except RuleError Unit → Prop
  | tooDeep : limits.maxDepth < rule.depth →
      Verdict limits rule (.error ⟨"", .tooDeep rule.depth limits.maxDepth⟩)
  | valid : rule.depth ≤ limits.maxDepth →
      (∀ address node, rule.at? address = some node → node.Passes limits) →
      Verdict limits rule (.ok ())
  | failure {address key cause} : rule.depth ≤ limits.maxDepth →
      rule.FirstFailure limits address key cause →
      Verdict limits rule (.error ⟨pathTo address key, cause⟩)

section
variable {limits : Limits} {rule : Rule}

theorem FirstFailure.unique {a b : List Nat} {key key' : String} {cause cause' : RuleError.Cause}
    (h : rule.FirstFailure limits a key cause) (h' : rule.FirstFailure limits b key' cause') :
    a = b ∧ key = key' ∧ cause = cause' := by
  obtain ⟨node, hn, hf⟩ := h.fails
  obtain ⟨node', hn', hf'⟩ := h'.fails
  rcases precedes_trichotomy a b with hp | rfl | hp
  · exact absurd hf (h'.earlier a node hp hn key cause)
  · rw [hn, Option.some.injEq] at hn'
    subst hn'
    exact ⟨rfl, hf.unique hf'⟩
  · exact absurd hf' (h.earlier b node' hp hn' key' cause')

/-- There is one verdict on a rule. -/
theorem Verdict.unique {x y : Except RuleError Unit} (hx : rule.Verdict limits x)
    (hy : rule.Verdict limits y) : x = y := by
  cases hx with
  | tooDeep h =>
    cases hy with
    | tooDeep => rfl
    | valid h' | failure h' => omega
  | valid h hp =>
    cases hy with
    | tooDeep h' => omega
    | valid => rfl
    | failure _ hf =>
      obtain ⟨node, hn, hf⟩ := hf.fails
      exact absurd hf (hp _ _ hn _ _)
  | failure h hf =>
    cases hy with
    | tooDeep h' => omega
    | valid _ hp =>
      obtain ⟨node, hn, hf⟩ := hf.fails
      exact absurd hf (hp _ _ hn _ _)
    | failure _ hf' =>
      obtain ⟨rfl, rfl, rfl⟩ := hf.unique hf'
      rfl

/-! ## The check of a rule -/

theorem checkList_eq (index : Nat) (rules : List Rule) :
    checkList limits index rules =
      (Preorder.collect (check limits) index rules).map fun _ => () := by
  induction rules generalizing index with
  | nil => rfl
  | cons r rules ih =>
    rw [checkList, Preorder.collect]
    cases r.check limits with
    | error e => rfl
    | ok =>
      dsimp only
      rw [ih]
      cases Preorder.collect (check limits) (index + 1) rules <;> rfl

theorem check_group_ok_iff {condition : Condition} {rules : List Rule} :
    (group condition rules).check limits = .ok () ↔
      rules ≠ [] ∧ ∀ r ∈ rules, r.check limits = .ok () := by
  cases rules with
  | nil => simp [check]
  | cons r rules =>
    have h : checkList limits 0 (r :: rules) = .ok () ↔
        ∃ units, Preorder.collect (check limits) 0 (r :: rules) = .ok units := by
      rw [checkList_eq, map_eq_ok_iff]
      simp
    rw [check, h, Preorder.collect_total_iff]
    constructor
    · exact fun hr => ⟨by simp, fun s hs => (hr s hs).elim fun _ hc => hc⟩
    · exact fun hr s hs => ⟨(), hr.2 s hs⟩

theorem check_comparison_ok_iff {c : Comparison} :
    (comparison c).check limits = .ok () ↔ ∃ op, c.check limits = .ok op := by
  simp [check, map_eq_ok_iff]

/-- A node of a rule fails at a key, which is never the whole node. -/
def FailsAt (limits : Limits) (node : Rule) (key : Option String) (cause : RuleError.Cause) :
    Prop :=
  ∃ k, key = some k ∧ node.Fails limits k cause

theorem passes_iff {node : Rule} :
    Preorder.Passes (FailsAt limits) node ↔ node.Passes limits := by
  constructor
  · exact fun h key cause hf => h (some key) cause ⟨key, rfl, hf⟩
  · rintro h _ cause ⟨key, rfl, hf⟩
    exact h key cause hf

/-- The check of a rule looks at a node and then at its children. -/
theorem check_step (limits : Limits) (node : Rule) :
    Preorder.Step children (FailsAt limits) (check limits) node := by
  cases node with
  | comparison c =>
    cases hc : c.check limits with
    | error e =>
      have hf : c.Fails limits e.path e.cause := Comparison.check_error_iff.1 hc
      refine .fails ⟨e.path, rfl, .comparison hf⟩ ?_ (by rw [check, hc]; rfl)
      simpa using Fails.key_ne (.comparison hf)
    | ok op =>
      refine .passes (fun _ => ()) (passes_iff.2 (passes_comparison.2 ⟨op, hc⟩)) ?_
      rw [check, hc]
      rfl
  | group condition rules =>
    cases rules with
    | nil => exact .fails ⟨"rules", rfl, .emptyGroup⟩ (by simp) rfl
    | cons r rules =>
      refine .passes (fun _ => ()) (passes_iff.2 (passes_group.2 (by simp))) ?_
      rw [check, checkList_eq]
      rfl

theorem at?_eq (address : List Nat) (rule : Rule) :
    rule.at? address = Preorder.descend children address rule := by
  induction address generalizing rule with
  | nil => rfl
  | cons index address ih =>
    rw [at?, Preorder.descend, child?_eq]
    exact Option.bind_congr fun r _ => ih r

/-- A rule is passed if every node of it passes. -/
theorem check_ok_iff : rule.check limits = .ok () ↔
    ∀ address node, rule.at? address = some node → node.Passes limits := by
  have h := Preorder.run_ok_iff children_founded (check_step limits) rule
  simp only [← at?_eq, passes_iff] at h
  exact ⟨fun hc => h.1 ⟨(), hc⟩, fun hp => (h.2 hp).elim fun _ hc => hc⟩

theorem place_eq_pathTo (address : List Nat) (key : String) :
    Preorder.place address (some key) = pathTo address key := by
  induction address with
  | nil => exact Preorder.place_nil _
  | cons index address ih =>
    rw [Preorder.place_cons, if_neg (by simp), ih, pathTo, RuleError.childSegment]
    simp only [String.append_assoc]
    rfl

/-- The error of a rule is its first failure. -/
theorem check_error {e : RuleError} (h : rule.check limits = .error e) :
    ∃ address key cause, rule.FirstFailure limits address key cause ∧
      e = ⟨pathTo address key, cause⟩ := by
  obtain ⟨address, key, cause, hf, -, rfl⟩ :=
    Preorder.run_error children_founded (check_step limits) h
  obtain ⟨node, hn, k, rfl, hk⟩ := hf.fails
  refine ⟨address, k, cause, ⟨⟨node, by rw [at?_eq, hn], hk⟩, fun a m hp hm => ?_⟩,
    by rw [place_eq_pathTo]⟩
  exact passes_iff.1 (hf.earlier a m hp (by rw [← at?_eq, hm]))

/-! ## Validation -/

theorem validate_eq (limits : Limits) (rule : Rule) : rule.validate limits =
    if limits.maxDepth < rule.depth then .error ⟨"", .tooDeep rule.depth limits.maxDepth⟩
    else rule.check limits := by
  rw [validate, validateLogged, Logged.result_reporting]
  rfl

theorem validate_ok_iff : rule.validate limits = .ok () ↔
    rule.depth ≤ limits.maxDepth ∧ rule.check limits = .ok () := by
  rw [validate_eq]
  split
  · next h => simp [Nat.not_le.2 h]
  · next h => simp [Nat.not_lt.1 h]

/-- Validation gives a verdict. -/
theorem validate_verdict (limits : Limits) (rule : Rule) :
    rule.Verdict limits (rule.validate limits) := by
  rw [validate_eq]
  split
  · next h => exact .tooDeep h
  · next h =>
    cases hc : rule.check limits with
    | ok => exact .valid (Nat.not_lt.1 h) (check_ok_iff.1 hc)
    | error e =>
      obtain ⟨address, key, cause, hf, rfl⟩ := check_error hc
      exact .failure (Nat.not_lt.1 h) hf

/-- **Validation reports the first failure**: it gives the verdict on a rule, and nothing else. -/
theorem validate_eq_iff {result : Except RuleError Unit} :
    rule.validate limits = result ↔ rule.Verdict limits result :=
  ⟨fun h => h ▸ validate_verdict limits rule, (validate_verdict limits rule).unique⟩

end

end Rule

end FilterRules
