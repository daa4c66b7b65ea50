/-
  FilterRules — matching and compiling agree.

  A rule can be compiled for a document store and it can be put to a record in
  memory.  Both ways have the same answer.

  * `anyItem_iff`, `equals_iff`, `acceptsNumber_iff`, `acceptsTimestamp_iff` and
    `acceptsText_iff`: the tests of the matching, in the words of the filters;
  * `holds_iff_clause`: an operator that is no negation holds where its clause
    does, and `clause_of_negation`: the clause of a negation is the negation of the
    clause;
  * `matchesRecord_ofOperator` and `matchesRecord_ofNegation`: rules of one comparison;
  * `matchesValue_iff` and `lower_holds_iff` join both for comparisons and rules;
  * `matchesRecord_iff_holds`: a valid rule has a filter, which holds for the
    records that the rule matches.  The operators on nulls and empty lists stand
    apart, since a clause looks at the items of a list one by one.
-/
import FilterRules.Proofs.Filter.Lowering
import FilterRules.Proofs.Filter.Meaning
import FilterRules.Proofs.Rule.Evaluation

namespace FilterRules

/-! ## The tests of values -/

namespace FieldValue

theorem anyItem_iff {test : FieldValue → Bool} {field : FieldValue} :
    field.anyItem test = true ↔ ∃ w ∈ field.candidates, test w = true := by
  cases field with
  | array items => exact List.any_eq_true
  | _ => simp [anyItem, candidates]

theorem equals_iff {expected : Json} {value : FieldValue} :
    value.equals expected = true ↔ value.Same expected := by
  constructor
  · intro h
    unfold equals at h
    split at h
    · rw [beq_iff_eq] at h; subst h; exact .string
    · rw [beq_iff_eq] at h; subst h; exact .bool
    · exact .number (beq_iff_eq.1 h)
    · cases h
  · intro h
    cases h with
    | bool | string => simp [equals]
    | number h => simp [equals, h]

end FieldValue

namespace Operator

theorem acceptsNumber_iff {op : Operator} {m : Json.Number} {value : FieldValue} :
    op.acceptsNumber m value = true ↔
      ∃ order, value.Stands (.number m) order ∧ op.accepts order = true := by
  constructor
  · intro h
    unfold acceptsNumber at h
    cases value with
    | number n =>
      cases hc : n.compare (Number.ofJson m) with
      | none => simp [FieldValue.number?, hc] at h
      | some order => exact ⟨order, .number hc, by simpa [FieldValue.number?, hc] using h⟩
    | _ => simp [FieldValue.number?] at h
  · rintro ⟨order, hs, ha⟩
    cases hs with
    | number hc => simpa [acceptsNumber, FieldValue.number?, hc] using ha

theorem acceptsTimestamp_iff {op : Operator} {t : Instant} {value : FieldValue} :
    op.acceptsTimestamp (.ofInstant t) value = true ↔
      ∃ order, value.Stands (.datetime t) order ∧ op.accepts order = true := by
  constructor
  · intro h
    unfold acceptsTimestamp at h
    cases value with
    | timestamp u => exact ⟨_, .timestamp, h⟩
    | string s =>
      cases hs : Timestamp.ofText? s with
      | none => simp [FieldValue.timestamp?, hs] at h
      | some u => exact ⟨_, .text hs, by simpa [FieldValue.timestamp?, hs] using h⟩
    | _ => simp [FieldValue.timestamp?] at h
  · rintro ⟨order, hs, ha⟩
    cases hs with
    | timestamp => exact ha
    | text hs => simpa [acceptsTimestamp, FieldValue.timestamp?, hs] using ha

theorem acceptsText_iff {op : Operator} {needle pattern : String} {value : FieldValue}
    (h : ∀ s, op.acceptsText needle (.string s) = true ↔ Pattern.Finds pattern s) :
    op.acceptsText needle value = true ↔ value.Has pattern := by
  constructor
  · intro ha
    cases value with
    | string s => exact ⟨s, rfl, (h s).1 ha⟩
    | _ => simp [acceptsText, FieldValue.text?] at ha
  · rintro ⟨s, rfl, hs⟩
    exact (h s).2 hs

theorem accepts_text_beginsWith {needle s : String} :
    Operator.beginsWith.acceptsText needle (.string s) = true ↔
      Pattern.Finds (Pattern.startingWith needle) s := by
  rw [Pattern.finds_startingWith, ← List.isPrefixOf_iff_prefix]
  rfl

theorem accepts_text_contains {needle s : String} :
    Operator.contains.acceptsText needle (.string s) = true ↔
      Pattern.Finds (Pattern.containing needle) s := by
  rw [Pattern.finds_containing, ← holdsText_iff]
  rfl

theorem accepts_text_endsWith {needle s : String} :
    Operator.endsWith.acceptsText needle (.string s) = true ↔
      Pattern.Finds (Pattern.endingWith needle) s := by
  rw [Pattern.finds_endingWith, ← List.isSuffixOf_iff_suffix]
  rfl

end Operator

/-! ## Orders -/

section
variable {value : FieldValue} {bound : Bound}

theorem stands_lt :
    (∃ order, value.Stands bound order ∧ (order == .lt) = true) ↔ value.Stands bound .lt := by
  simp

theorem stands_gt :
    (∃ order, value.Stands bound order ∧ (order == .gt) = true) ↔ value.Stands bound .gt := by
  simp

theorem stands_le : (∃ order, value.Stands bound order ∧ (order != .gt) = true) ↔
    value.Stands bound .lt ∨ value.Stands bound .eq := by
  constructor
  · rintro ⟨_ | _ | _, h, ho⟩
    · exact .inl h
    · exact .inr h
    · cases ho
  · rintro (h | h)
    · exact ⟨_, h, rfl⟩
    · exact ⟨_, h, rfl⟩

theorem stands_ge : (∃ order, value.Stands bound order ∧ (order != .lt) = true) ↔
    value.Stands bound .gt ∨ value.Stands bound .eq := by
  constructor
  · rintro ⟨_ | _ | _, h, ho⟩
    · cases ho
    · exact .inr h
    · exact .inl h
  · rintro (h | h)
    · exact ⟨_, h, rfl⟩
    · exact ⟨_, h, rfl⟩

end

/-! ## Clauses -/

section
variable {op : Operator} {value : Json} {clause : Clause}

/-- The operators whose clauses look at the items of a list and not at the list. -/
def Operator.onWhole : List Operator := [.isNull, .isNotNull, .isEmpty, .isNotEmpty]

/-- What is negated is no negation itself, and looks at the items of a list, too. -/
theorem Operator.negated_plain {positive : Operator} (h : op.negated? = some positive)
    (hw : op ∉ onWhole) : positive.negated? = none ∧ positive ∉ onWhole := by
  cases op with
  | equal | isIn | less | lessOrEqual | greater | greaterOrEqual | datetimeLess
  | datetimeLessOrEqual | datetimeGreater | datetimeGreaterOrEqual | beginsWith | contains
  | endsWith | isEmpty | isNull | exist => cases h
  | isNotEmpty | isNotNull => exact absurd (by decide) hw
  | notEqual | notIn | notBeginsWith | notContains | notEndsWith | notExist =>
    cases h
    decide

/-- An operator that is no negation holds for a field where its clause does. -/
theorem holds_iff_clause (hn : op.negated? = none) (hw : op ∉ Operator.onWhole)
    (h : Clause.ofValue op value = .ok clause) (field : FieldValue) :
    op.holds value field = true ↔ clause.Holds field := by
  cases op with
  | notEqual | notIn | notBeginsWith | notContains | notEndsWith | isNotEmpty | isNotNull
  | notExist => cases hn
  | isEmpty | isNull => exact absurd (by decide) hw
  | equal =>
    cases h
    simp only [Operator.holds, FieldValue.anyItem_iff, FieldValue.equals_iff, Clause.Holds]
  | isIn =>
    cases value with
    | array items =>
      cases h
      simp only [Operator.holds, FieldValue.anyItem_iff, List.any_eq_true, FieldValue.equals_iff,
        Clause.Holds]
    | _ => cases h
  | less | lessOrEqual | greater | greaterOrEqual =>
    cases value with
    | number m =>
      cases h
      simp only [Operator.holds, FieldValue.anyItem_iff, Operator.acceptsNumber_iff,
        Operator.accepts, stands_lt, stands_le, stands_gt, stands_ge, Clause.Holds]
    | _ => cases h
  | datetimeLess | datetimeLessOrEqual | datetimeGreater | datetimeGreaterOrEqual =>
    cases value with
    | string text =>
      cases hr : Rfc3339.read text with
      | error fault => simp [Clause.ofValue, datetimeOperand, hr, Except.map] at h
      | ok stamp =>
        simp only [Clause.ofValue, datetimeOperand, hr, Except.map, Except.ok.injEq] at h
        subst h
        have ht : Timestamp.ofText? text = some (.ofInstant stamp.instant) := by
          rw [Timestamp.ofText?, Rfc3339.instant?, hr]; rfl
        simp only [Operator.holds, ht, FieldValue.anyItem_iff, Operator.acceptsTimestamp_iff,
          Operator.accepts, stands_lt, stands_le, stands_gt, stands_ge, Clause.Holds]
    | _ => cases h
  | beginsWith =>
    obtain ⟨needle, ht, rfl⟩ := map_eq_ok_iff.1 h
    obtain ⟨rfl, -⟩ := textOperand_ok_iff.1 ht
    simp only [Operator.holds, FieldValue.anyItem_iff, Function.comp_apply, Clause.Holds,
      Operator.acceptsText_iff fun _ => Operator.accepts_text_beginsWith]
  | contains =>
    obtain ⟨needle, ht, rfl⟩ := map_eq_ok_iff.1 h
    obtain ⟨rfl, -⟩ := textOperand_ok_iff.1 ht
    simp only [Operator.holds, FieldValue.anyItem_iff, Function.comp_apply, Clause.Holds,
      Operator.acceptsText_iff fun _ => Operator.accepts_text_contains]
  | endsWith =>
    obtain ⟨needle, ht, rfl⟩ := map_eq_ok_iff.1 h
    obtain ⟨rfl, -⟩ := textOperand_ok_iff.1 ht
    simp only [Operator.holds, FieldValue.anyItem_iff, Function.comp_apply, Clause.Holds,
      Operator.acceptsText_iff fun _ => Operator.accepts_text_endsWith]
  | exist =>
    cases h
    cases field <;> simp [Operator.holds, FieldValue.isMissing, Clause.Holds]

/-- The clause of a negation is the negation of a clause. -/
theorem clause_of_negation {positive : Operator} (hp : op.negated? = some positive)
    (hw : op ∉ Operator.onWhole) (h : Clause.ofValue op value = .ok clause) :
    ∃ clause', Clause.ofValue positive value = .ok clause' ∧
      ∀ field, clause.Holds field ↔ ¬ clause'.Holds field := by
  cases op with
  | equal | isIn | less | lessOrEqual | greater | greaterOrEqual | datetimeLess
  | datetimeLessOrEqual | datetimeGreater | datetimeGreaterOrEqual | beginsWith | contains
  | endsWith | isEmpty | isNull | exist => cases hp
  | isNotEmpty | isNotNull => exact absurd (by decide) hw
  | notEqual =>
    cases hp; cases h
    exact ⟨.eq value, rfl, fun _ => Iff.rfl⟩
  | notIn =>
    cases hp
    obtain ⟨items, hi, rfl⟩ := map_eq_ok_iff.1 h
    obtain rfl := listOperand_ok_iff.1 hi
    exact ⟨.isIn items, rfl, fun _ => Iff.rfl⟩
  | notBeginsWith | notContains | notEndsWith =>
    cases hp
    obtain ⟨needle, ht, rfl⟩ := map_eq_ok_iff.1 h
    refine ⟨_, map_eq_ok_iff.2 ⟨needle, ?_, rfl⟩, fun _ => Iff.rfl⟩
    exact textOperand_ok_iff.2 (textOperand_ok_iff.1 ht)
  | notExist =>
    cases hp; cases h
    exact ⟨.present true, rfl, fun field => by simp [Clause.Holds]⟩

end

/-! ## Comparisons and rules -/

/-- A rule of one comparison, by an operator that is no negation. -/
theorem matchesRecord_ofOperator {op : Operator} (hn : op.negated? = none) (field : String)
    (value : Json) (record : Record) :
    (Rule.comparison (.ofOperator field op value)).matchesRecord record =
      op.holds value (record field) := by
  simp only [Rule.matchesRecord, Rule.evaluate_comparison, Comparison.matchesValue,
    Comparison.operator?, Comparison.ofOperator, Operator.ofName_name, hn]

/-- A rule of one comparison, by a negation. -/
theorem matchesRecord_ofNegation {op positive : Operator} (hn : op.negated? = some positive)
    (field : String) (value : Json) (record : Record) :
    (Rule.comparison (.ofOperator field op value)).matchesRecord record =
      !positive.holds value (record field) := by
  simp only [Rule.matchesRecord, Rule.evaluate_comparison, Comparison.matchesValue,
    Comparison.operator?, Comparison.ofOperator, Operator.ofName_name, hn]

/-- A comparison holds for a field where its clause does. -/
theorem matchesValue_iff {c : Comparison} {op : Operator} {clause : Clause}
    (ho : c.operator? = some op) (hw : op ∉ Operator.onWhole)
    (h : Clause.ofValue op c.value = .ok clause) (field : FieldValue) :
    c.matchesValue field = true ↔ clause.Holds field := by
  simp only [Comparison.matchesValue, ho]
  cases hn : op.negated? with
  | none => exact holds_iff_clause hn hw h field
  | some positive =>
    obtain ⟨clause', hc, hneg⟩ := clause_of_negation hn hw h
    obtain ⟨hp, hpw⟩ := Operator.negated_plain hn hw
    rw [hneg, ← holds_iff_clause hp hpw hc, Bool.not_eq_true', Bool.not_eq_true]

theorem forall_iff_of_forall₂ {α β : Type} {p : α → Prop} {q : β → Prop} {as : List α}
    {bs : List β} (h : List.Forall₂ (fun a b => p a ↔ q b) as bs) :
    (∀ a ∈ as, p a) ↔ ∀ b ∈ bs, q b := by
  induction h with
  | nil => simp
  | cons h _ ih => rw [List.forall_mem_cons, List.forall_mem_cons, h, ih]

theorem exists_iff_of_forall₂ {α β : Type} {p : α → Prop} {q : β → Prop} {as : List α}
    {bs : List β} (h : List.Forall₂ (fun a b => p a ↔ q b) as bs) :
    (∃ a ∈ as, p a) ↔ ∃ b ∈ bs, q b := by
  induction h with
  | nil => simp
  | cons h _ ih => simp only [List.mem_cons, exists_eq_or_imp, h, ih]

namespace Rule

/-- **The filter of a rule that passes its check holds where the rule matches.** -/
theorem lower_holds_iff {limits : Limits} {rule : Rule} {filter : Filter}
    (hc : rule.check limits = .ok ()) (hu : ∀ op ∈ Operator.onWhole, ¬ rule.Uses op)
    (hl : rule.lower limits = .ok filter) (record : Record) :
    rule.matchesRecord record = true ↔ filter.Holds record := by
  induction rule generalizing filter with
  | comparison c =>
    obtain ⟨op, clause, hop, hv, rfl⟩ := lower_comparison_iff.1 hl
    obtain ⟨-, ho, -, -⟩ := Comparison.check_ok_iff.1 hop
    have hw : op ∉ Operator.onWhole := fun hm => hu op hm (uses_comparison.2 ho)
    rw [matchesRecord, evaluate_comparison, Filter.Holds]
    exact matchesValue_iff ho hw hv _
  | group condition rules ih =>
    obtain ⟨filters, hf, rfl⟩ := lower_group_iff.1 hl
    obtain ⟨hne, hall⟩ := check_group_ok_iff.1 hc
    have hr : ∀ r ∈ rules, ∀ f, r.lower limits = .ok f →
        (r.matchesRecord record = true ↔ f.Holds record) := fun r hm f hl =>
      ih r hm (hall r hm) (fun op ho hr => hu op ho (uses_group.2 ⟨r, hm, hr⟩)) hl
    have hfs : List.Forall₂ (fun r f => r.matchesRecord record = true ↔ f.Holds record)
        rules filters :=
      ((List.forall₂_and_left _ _).2 ⟨hr, hf⟩).imp fun r f h => h.1 f h.2
    cases condition with
    | and =>
      rw [matchesRecord, evaluate_and, List.all_eq_true, Filter.join, Filter.holds_and]
      exact forall_iff_of_forall₂ hfs
    | or =>
      rw [matchesRecord, evaluate_or _ hne, List.any_eq_true, Filter.join, Filter.holds_or]
      exact exists_iff_of_forall₂ hfs

/-- **A rule that is valid under some limits has a filter there, which holds for the
    records that the rule matches.** -/
theorem matchesRecord_iff_holds {limits : Limits} {rule : Rule}
    (hv : rule.validate limits = .ok ()) (hu : ∀ op ∈ Operator.onWhole, ¬ rule.Uses op) :
    ∃ filter, rule.compile limits = .ok filter ∧
      ∀ record, rule.matchesRecord record = true ↔ filter.Holds record := by
  have hc : rule.check limits = .ok () := (validate_ok_iff.1 hv).2
  obtain ⟨filter, hl⟩ := lower_total hc
  exact ⟨filter, compile_ok_iff.2 ⟨hv, hl⟩, lower_holds_iff hc hu hl⟩

/-- A group of a negation and a group, whose filter holds for a record without tags. -/
theorem matchesRecord_iff_holds_untagged :
    ∃ filter, (group .and [
        .comparison ⟨"tags", "not_contains", .string "a.b"⟩,
        .group .or [.comparison ⟨"name", "in", .array [.string "x", .string "y"]⟩]]).compile
          .default = .ok filter ∧
      filter.Holds fun field => if field = "name" then .string "y" else .missing := by
  obtain ⟨filter, hc, hm⟩ := @matchesRecord_iff_holds .default
    (group .and [
      .comparison ⟨"tags", "not_contains", .string "a.b"⟩,
      .group .or [.comparison ⟨"name", "in", .array [.string "x", .string "y"]⟩]])
    (by decide) (by simp [Operator.onWhole, uses_group, uses_comparison]; decide)
  exact ⟨filter, hc, (hm _).1 (by decide)⟩

end Rule

end FilterRules
