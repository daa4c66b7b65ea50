/-
  FilterRules — nulls and empty lists.

  A document store reads `$eq v` in one way, whatever `v` is: the field equals `v`, a
  missing field counting as null, or the field is a list and one of its items equals
  `v`.  Matching in memory reads it so as well, but the operators on nulls and empty
  lists look at the field alone.

  * `FieldValue.Equals` and `FieldValue.ReadsAs` are that reading, and `Clause.Reads`
    is it for clauses;
  * `Clause.holds_iff_reads`: the clauses of all other operators are read so;
  * `holds_isNull_iff` and `holds_isEmpty_iff`: these operators leave items out;
  * `matchesValue_iff_reads_iff`: matching follows the clause unless the operator is one
    of these and an item of the field equals the operand;
  * `isNull_list_of_null`: a list of null.
-/
import FilterRules.Proofs.Matching

namespace FilterRules

/-! ## The reading of a document store -/

namespace FieldValue

/-- A value equals a JSON value, a list item by item. -/
inductive Equals : FieldValue → Json → Prop
  | null : Equals .null .null
  | bool {b} : Equals (.bool b) (.bool b)
  | string {s} : Equals (.string s) (.string s)
  | number {m n} : (Number.ofJson m).compare n = some .eq → Equals (.number n) (.number m)
  | array {items values} : List.Forall₂ Equals items values → Equals (.array items) (.array values)

/-- A missing field counts as null. -/
def orNull : FieldValue → FieldValue
  | .missing => .null
  | value => value

/-- The items of a field that is a list. -/
def elements : FieldValue → List FieldValue
  | .array items => items
  | _ => []

/-- The field equals a JSON value, or one of its items does. -/
def ReadsAs (field : FieldValue) (v : Json) : Prop :=
  field.orNull.Equals v ∨ ∃ w ∈ field.elements, w.Equals v

end FieldValue

/-- A clause holds for a field in the one reading of `$eq` and `$ne`. -/
def Clause.Reads (field : FieldValue) : Clause → Prop
  | .eq v => field.ReadsAs v
  | .ne v => ¬ field.ReadsAs v
  | clause => clause.Holds field

/-! ## Scalars -/

namespace FieldValue

variable {field w : FieldValue} {v : Json} {kind : ScalarKind}

theorem equals_scalar_iff (h : v.scalarKind? = some kind) : w.Equals v ↔ w.Same v := by
  constructor
  · intro he
    cases he with
    | null | array => cases h
    | bool => exact .bool
    | string => exact .string
    | number hn => exact .number hn
  · intro hs
    cases hs with
    | bool => exact .bool
    | string => exact .string
    | number hn => exact .number hn

/-- For a scalar it is the same to look at the field and its items, or at the items alone. -/
theorem readsAs_scalar_iff (h : v.scalarKind? = some kind) :
    field.ReadsAs v ↔ ∃ w ∈ field.candidates, w.Same v := by
  simp only [ReadsAs, equals_scalar_iff h]
  cases field with
  | array items =>
    have hw : ¬ Same (.array items) v := by
      intro hs
      cases hs
    simp [orNull, elements, candidates, hw]
  | missing =>
    have hn : ¬ Same .null v := by
      intro hs
      cases hs
    have hm : ¬ Same .missing v := by
      intro hs
      cases hs
    simp [orNull, elements, candidates, hn, hm]
  | _ => simp [orNull, elements, candidates]

end FieldValue

section
variable {op : Operator} {value : Json} {clause : Clause}

/-- The clauses of the operators that look at items are read as a document store does. -/
theorem Clause.holds_iff_reads (hw : op ∉ Operator.onWhole) (hs : op.shape.Fits value)
    (h : ofValue op value = .ok clause) (field : FieldValue) :
    clause.Holds field ↔ clause.Reads field := by
  cases op with
  | equal =>
    obtain ⟨kind, hk⟩ := hs
    cases h
    exact (FieldValue.readsAs_scalar_iff hk).symm
  | notEqual =>
    obtain ⟨kind, hk⟩ := hs
    cases h
    exact not_congr (FieldValue.readsAs_scalar_iff hk).symm
  | isIn | notIn | less | lessOrEqual | greater | greaterOrEqual | datetimeLess
  | datetimeLessOrEqual | datetimeGreater | datetimeGreaterOrEqual | beginsWith | notBeginsWith
  | contains | notContains | endsWith | notEndsWith =>
    obtain ⟨_, -, rfl⟩ := map_eq_ok_iff.1 h
    exact Iff.rfl
  | exist | notExist =>
    cases h
    exact Iff.rfl
  | isEmpty | isNotEmpty | isNull | isNotNull => exact absurd (by decide) hw

/-! ## Nulls and empty lists -/

theorem holds_isNull_iff (field : FieldValue) :
    Operator.isNull.holds value field = true ↔ field.orNull.Equals .null := by
  constructor
  · intro h
    cases field with
    | missing | null => exact .null
    | _ => cases h
  · intro h
    cases field with
    | missing | null => rfl
    | _ => cases h

theorem holds_isEmpty_iff (field : FieldValue) :
    Operator.isEmpty.holds value field = true ↔ field.orNull.Equals (.array []) := by
  constructor
  · intro h
    cases field with
    | array items =>
      cases items with
      | nil => exact .array .nil
      | cons => cases h
    | _ => cases h
  · intro h
    cases field with
    | array items =>
      cases h with
      | array hi =>
        cases hi
        rfl
    | _ => cases h

/-- A list that has an item is no null and no empty list. -/
theorem not_equals_of_element {field w : FieldValue} {v : Json} (hw : w ∈ field.elements)
    (hv : v = .null ∨ v = .array []) : ¬ field.orNull.Equals v := by
  intro he
  cases field with
  | array items =>
    rcases hv with rfl | rfl
    · cases he
    · cases he with
      | array hi =>
        cases hi
        cases hw
  | _ => cases hw

/-- A test of the field alone and the reading that looks at its items, too, are one and the same
    where no item equals the value. -/
theorem whole_iff_readsAs_iff {matched : Bool} {field : FieldValue} {v : Json}
    (hv : v = .null ∨ v = .array []) (h : matched = true ↔ field.orNull.Equals v) :
    (matched = true ↔ field.ReadsAs v) ↔ ∀ w ∈ field.elements, ¬ w.Equals v := by
  constructor
  · intro hr w hw he
    have hf : field.orNull.Equals v := h.1 (hr.2 (.inr ⟨w, hw, he⟩))
    exact not_equals_of_element hw hv hf
  · intro hn
    rw [h]
    refine ⟨.inl, ?_⟩
    rintro (hf | ⟨w, hw, he⟩)
    · exact hf
    · exact absurd he (hn w hw)

theorem not_whole_iff_readsAs_iff {matched : Bool} {field : FieldValue} {v : Json}
    (hv : v = .null ∨ v = .array []) (h : matched = true ↔ field.orNull.Equals v) :
    ((!matched) = true ↔ ¬ field.ReadsAs v) ↔ ∀ w ∈ field.elements, ¬ w.Equals v := by
  rw [← whole_iff_readsAs_iff hv h, Bool.not_eq_true', ← Bool.not_eq_true, not_iff_not]

/-- The operators on nulls and empty lists follow their clauses where no item of the field equals
    the operand. -/
theorem matchesValue_onWhole {c : Comparison} (ho : c.operator? = some op)
    (hw : op ∈ Operator.onWhole) (h : Clause.ofValue op c.value = .ok clause)
    (field : FieldValue) :
    (c.matchesValue field = true ↔ clause.Reads field) ↔
      ∀ w ∈ field.elements, ¬ w.Equals clause.operand := by
  simp only [Comparison.matchesValue, ho]
  simp only [Operator.onWhole, List.mem_cons, List.not_mem_nil, or_false] at hw
  rcases hw with rfl | rfl | rfl | rfl <;> cases h
  · exact whole_iff_readsAs_iff (.inl rfl) (holds_isNull_iff field)
  · exact not_whole_iff_readsAs_iff (.inl rfl) (holds_isNull_iff field)
  · exact whole_iff_readsAs_iff (.inr rfl) (holds_isEmpty_iff field)
  · exact not_whole_iff_readsAs_iff (.inr rfl) (holds_isEmpty_iff field)

end

namespace Rule

variable {limits : Limits} {c : Comparison} {clause : Clause}

/-- **Matching follows the clause that a rule compiles to**, in the one reading of `$eq` and
    `$ne`, for a field unless the operator is one of those on nulls and empty lists and an item
    of the field equals the operand of the clause. -/
theorem matchesValue_iff_reads_iff
    (h : (comparison c).compile limits = .ok (.field c.field clause)) (field : FieldValue) :
    (c.matchesValue field = true ↔ clause.Reads field) ↔
      ∀ op ∈ Operator.onWhole, c.operator? = some op →
        ∀ w ∈ field.elements, ¬ w.Equals clause.operand := by
  obtain ⟨op, clause', hc, hv, he⟩ := lower_comparison_iff.1 (compile_ok_iff.1 h).2
  cases he
  obtain ⟨-, ho, -, hs⟩ := Comparison.check_ok_iff.1 hc
  by_cases hw : op ∈ Operator.onWhole
  · rw [matchesValue_onWhole ho hw hv]
    constructor
    · intro hn _ _ _
      exact hn
    · intro hn
      exact hn op hw ho
  · refine iff_of_true ?_ fun op' hw' ho' => ?_
    · rw [matchesValue_iff ho hw hv, Clause.holds_iff_reads hw hs hv]
    · obtain rfl : op' = op := Option.some.inj (ho'.symm.trans ho)
      exact absurd hw' hw

/-- A list of a list is not empty, and none of its items is. -/
theorem matchesValue_iff_reads_iff_nested : ∃ c clause,
    c = ⟨"tags", "is_not_empty", .null⟩ ∧
    (comparison c).compile .default = .ok (.field "tags" clause) ∧
    (c.matchesValue (.array [.array [.null]]) = true ↔ clause.Reads (.array [.array [.null]])) ∧
    ¬ (c.matchesValue (.array [.array []]) = true ↔ clause.Reads (.array [.array []])) := by
  have h : (comparison ⟨"tags", "is_not_empty", .null⟩).compile .default =
      .ok (.field "tags" (.ne (.array []))) := by rfl
  refine ⟨_, _, rfl, h, (matchesValue_iff_reads_iff h _).2 ?_, fun hm => ?_⟩
  · rintro op - - w hw he
    cases List.mem_singleton.1 hw
    cases he with
    | array hi => cases hi
  · have hn := (matchesValue_iff_reads_iff h _).1 hm .isNotEmpty (by decide) rfl
    exact hn (.array []) (List.mem_singleton.2 rfl) (.array .nil)

/-- A list of null matches `$eq null` by its item, but is not taken for null in memory. -/
theorem isNull_list_of_null : ∃ c clause,
    c = ⟨"tags", "is_null", .null⟩ ∧
    (comparison c).compile .default = .ok (.field "tags" clause) ∧
    clause.Reads (.array [.null]) ∧ c.matchesValue (.array [.null]) = false :=
  ⟨_, .eq .null, rfl, rfl, .inr ⟨.null, List.mem_singleton.2 rfl, .null⟩, rfl⟩

end Rule

end FilterRules
