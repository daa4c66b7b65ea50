/-
  FilterRules — lowering valid rules.

  * `Clause.ofValue_total`: there is a clause for every value of the shape that an
    operator asks for;
  * `lower_comparison_iff` and `lower_group_iff`: the filter of a rule, from the
    filters of its parts;
  * `lower_total`: a rule that passes its check has a filter, and so has every node
    of a rule that has one (`lower_at?`);
  * `compile_ok_iff`: compiling is validating and lowering, and an error of the one is an
    error of the other;
  * `Limits.Permits` says that limits leave a field and an operator to a rule,
    `validate_ofOperator_iff` that a comparison is valid if they do and the operator can
    use the value, and `compile_ofOperator` gives its filter;
  * `compile_error_iff_validate`: only validating can fail.
-/
import FilterRules.Filter.Compile
import FilterRules.Proofs.Rule.Verdict

namespace FilterRules

/-! ## Clauses -/

section
variable {op : Operator} {value : Json}

theorem listOperand_ok_iff {items : List Json} :
    listOperand op value = .ok items ↔ value = .array items := by
  cases value <;> simp [listOperand]

theorem numberOperand_ok_iff {bound : Bound} :
    numberOperand op value = .ok bound ↔ ∃ n, value = .number n ∧ bound = .number n := by
  cases value <;> simp [numberOperand, eq_comm]

theorem instant?_eq_some_iff {text : String} {instant : Instant} :
    Rfc3339.instant? text = some instant ↔
      ∃ stamp, Rfc3339.read text = .ok stamp ∧ stamp.instant = instant := by
  rw [Rfc3339.instant?]
  cases Rfc3339.read text <;> simp [Except.toOption]

theorem datetimeOperand_ok_iff {bound : Bound} :
    datetimeOperand op value = .ok bound ↔ ∃ text instant, value = .string text ∧
      Rfc3339.instant? text = some instant ∧ bound = .datetime instant := by
  cases value with
  | string text =>
    rw [datetimeOperand]
    cases hr : Rfc3339.read text with
    | ok stamp =>
      have hi : Rfc3339.instant? text = some stamp.instant :=
        instant?_eq_some_iff.2 ⟨stamp, hr, rfl⟩
      simp [hi, eq_comm]
    | error fault => simp [instant?_eq_some_iff, hr]
  | _ => simp [datetimeOperand]

theorem textOperand_ok_iff {text : String} :
    textOperand op value = .ok text ↔ value = .string text ∧ text ≠ "" := by
  cases value with
  | string s =>
    rw [textOperand, Json.string.injEq]
    split
    · next h => constructor <;> grind
    · next h => constructor <;> grind
  | _ => simp [textOperand]

end

/-- A value of the right shape has a clause. -/
theorem Clause.ofValue_total {op : Operator} {value : Json} (h : op.shape.Fits value) :
    ∃ clause, Clause.ofValue op value = .ok clause := by
  cases op with
  | equal | notEqual | isEmpty | isNotEmpty | isNull | isNotNull | exist | notExist =>
    exact ⟨_, rfl⟩
  | isIn | notIn =>
    obtain ⟨items, _, rfl, -⟩ := h
    exact ⟨_, rfl⟩
  | less | lessOrEqual | greater | greaterOrEqual =>
    obtain ⟨n, rfl⟩ := h
    exact ⟨_, rfl⟩
  | datetimeLess | datetimeLessOrEqual | datetimeGreater | datetimeGreaterOrEqual =>
    obtain ⟨text, stamp, rfl, hr⟩ := h
    simp only [Clause.ofValue, datetimeOperand, hr]
    exact ⟨_, rfl⟩
  | beginsWith | notBeginsWith | contains | notContains | endsWith | notEndsWith =>
    obtain ⟨text, rfl, hne⟩ := h
    simp only [Clause.ofValue, textOperand, if_neg hne]
    exact ⟨_, rfl⟩

/-! ## Rules -/

/-- Limits leave room for one comparison, of a field that has a name, by an operator. -/
structure Limits.Permits (limits : Limits) (field : String) (op : Operator) : Prop where
  depth : 0 < limits.maxDepth
  field : isFieldName field = true
  operator : limits.allows op = true

namespace Rule

variable {limits : Limits}

theorem lower_comparison_iff {c : Comparison} {filter : Filter} :
    (comparison c).lower limits = .ok filter ↔ ∃ op clause, c.check limits = .ok op ∧
      Clause.ofValue op c.value = .ok clause ∧ filter = .field c.field clause := by
  rw [lower, Comparison.lower]
  cases c.check limits with
  | error e => simp
  | ok op =>
    cases h : Clause.ofValue op c.value with
    | ok clause => simp [h, eq_comm]
    | error cause => simp [h]

theorem lowerList_eq (index : Nat) (rules : List Rule) :
    lowerList limits index rules = Preorder.collect (lower limits) index rules := by
  induction rules generalizing index with
  | nil => rfl
  | cons r rules ih =>
    rw [lowerList, Preorder.collect]
    cases r.lower limits with
    | error e => rfl
    | ok f => simp only [ih]

theorem lower_group_iff {condition : Condition} {rules : List Rule} {filter : Filter} :
    (group condition rules).lower limits = .ok filter ↔ ∃ filters,
      List.Forall₂ (fun r f => r.lower limits = .ok f) rules filters ∧
        filter = Filter.join condition filters := by
  simp only [lower, lowerList_eq, map_eq_ok_iff, Preorder.collect_ok_iff]

/-- **A rule that passes its check has a filter.** -/
theorem lower_total {rule : Rule} (h : rule.check limits = .ok ()) :
    ∃ filter, rule.lower limits = .ok filter := by
  induction rule with
  | comparison c =>
    obtain ⟨op, hc⟩ := check_comparison_ok_iff.1 h
    obtain ⟨-, -, -, hs⟩ := Comparison.check_ok_iff.1 hc
    obtain ⟨clause, hv⟩ := Clause.ofValue_total hs
    exact ⟨_, lower_comparison_iff.2 ⟨op, clause, hc, hv, rfl⟩⟩
  | group condition rules ih =>
    have hr : ∀ r ∈ rules, ∃ f, r.lower limits = .ok f := fun r hm =>
      ih r hm ((check_group_ok_iff.1 h).2 r hm)
    obtain ⟨filters, hf⟩ := (Preorder.collect_total_iff 0).2 hr
    exact ⟨_, lower_group_iff.2 ⟨filters, Preorder.collect_ok_iff.1 hf, rfl⟩⟩

/-- Every node of a rule that has a filter has one. -/
theorem lower_at? {rule node : Rule} {address : List Nat} {filter : Filter}
    (h : rule.lower limits = .ok filter) (hn : rule.at? address = some node) :
    ∃ f, node.lower limits = .ok f := by
  induction address generalizing rule filter with
  | nil =>
    cases hn
    exact ⟨filter, h⟩
  | cons index address ih =>
    cases rule with
    | comparison c =>
      rw [at?_comparison_cons] at hn
      cases hn
    | group condition rules =>
      obtain ⟨r, hi, hn⟩ := at?_group_cons.1 hn
      obtain ⟨filters, hf, -⟩ := lower_group_iff.1 h
      have hr : ∀ r ∈ rules, ∃ f, r.lower limits = .ok f :=
        (Preorder.collect_total_iff 0).1 ⟨filters, Preorder.collect_ok_iff.2 hf⟩
      obtain ⟨f, hf⟩ := hr r (List.mem_of_getElem? hi)
      exact ih hf hn

/-! ## Compiling -/

theorem compile_eq (limits : Limits) (rule : Rule) :
    rule.compile limits = (rule.validate limits).bind fun _ => rule.lower limits := by
  rw [compile, compileLogged, Logged.result_bind, Logged.result_reporting]
  rfl

theorem compile_ok_iff {rule : Rule} {filter : Filter} :
    rule.compile limits = .ok filter ↔
      rule.validate limits = .ok () ∧ rule.lower limits = .ok filter := by
  rw [compile_eq]
  cases rule.validate limits <;> simp [Except.bind]

theorem compile_of_validate_error {rule : Rule} {e : RuleError}
    (h : rule.validate limits = .error e) : rule.compile limits = .error e := by
  rw [compile_eq, h]
  rfl

theorem validate_of_compile_error {rule : Rule} {e : RuleError}
    (h : rule.compile limits = .error e) : rule.validate limits = .error e := by
  cases hv : rule.validate limits with
  | error e' =>
    rw [compile_of_validate_error hv] at h
    cases h
    rfl
  | ok =>
    obtain ⟨filter, hf⟩ := lower_total (validate_ok_iff.1 hv).2
    rw [compile_ok_iff.2 ⟨hv, hf⟩] at h
    cases h

/-- A single comparison is valid if its operator can use the value. -/
theorem validate_ofOperator_iff {field : String} {op : Operator} {value : Json} :
    (comparison (.ofOperator field op value)).validate limits = .ok () ↔
      limits.Permits field op ∧ op.shape.Fits value := by
  have ho : (Comparison.ofOperator field op value).operator? = some op := Operator.ofName_name op
  rw [validate_ok_iff, check_comparison_ok_iff]
  constructor
  · rintro ⟨hd, op', hc⟩
    obtain ⟨hf, ho', ha, hs⟩ := Comparison.check_ok_iff.1 hc
    obtain rfl : op = op' := Option.some.inj (ho.symm.trans ho')
    exact ⟨⟨hd, hf, ha⟩, hs⟩
  · rintro ⟨hp, hs⟩
    exact ⟨hp.depth, op, Comparison.check_ok_iff.2 ⟨hp.field, ho, hp.operator, hs⟩⟩

/-- A single comparison is compiled if its operator can use the value. -/
theorem compile_ofOperator {field : String} {op : Operator} {value : Json} {clause : Clause}
    (hp : limits.Permits field op) (hs : op.shape.Fits value)
    (hv : Clause.ofValue op value = .ok clause) :
    (comparison (.ofOperator field op value)).compile limits = .ok (.field field clause) := by
  have hc : (Comparison.ofOperator field op value).check limits = .ok op :=
    Comparison.check_ok_iff.2 ⟨hp.field, Operator.ofName_name op, hp.operator, hs⟩
  exact compile_ok_iff.2 ⟨validate_ofOperator_iff.2 ⟨hp, hs⟩,
    lower_comparison_iff.2 ⟨op, clause, hc, hv, rfl⟩⟩

/-- **Compiling fails exactly as validating does.**  Behind a validation that passes every
    node of the rule has a filter, since there is a clause for every value that an operator
    lets pass. -/
theorem compile_error_iff_validate (limits : Limits) (rule : Rule) :
    (∀ e, rule.compile limits = .error e ↔ rule.validate limits = .error e) ∧
    (rule.validate limits = .ok () → ∀ address node, rule.at? address = some node →
      ∃ filter, node.lower limits = .ok filter) ∧
    ∀ op value, checkValue op value = .ok () → ∃ clause, Clause.ofValue op value = .ok clause := by
  have hl : rule.validate limits = .ok () → ∃ filter, rule.lower limits = .ok filter :=
    fun hv => lower_total (validate_ok_iff.1 hv).2
  refine ⟨fun e => ?_, fun hv address node hn => ?_, fun op value hc => ?_⟩
  · rw [compile_eq]
    cases hv : rule.validate limits with
    | error e' => simp [Except.bind]
    | ok =>
      obtain ⟨filter, hf⟩ := hl hv
      simp [Except.bind, hf]
  · obtain ⟨filter, hf⟩ := hl hv
    exact lower_at? hf hn
  · exact Clause.ofValue_total (checkValue_ok_iff.1 hc)

end Rule

end FilterRules
