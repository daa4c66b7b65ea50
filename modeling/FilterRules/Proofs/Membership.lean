/-
  FilterRules — membership.

  To be one of some values is to be equal to some of them, and to be none of them is to differ
  from each.

  * `memberOf` and `noMemberOf` are the rules by `isIn` and `notIn`, `equalToSome` and
    `differentFromAll` the groups of rules by `equal` and `notEqual` for the same values;
  * `holds_isIn_iff`: the values and the items of the field can change places;
  * `matches_memberOf_iff` and `matches_noMemberOf_iff`: the two for records, value by value;
  * `membership_disjunctive` joins these.  The group is another matter for no values at all:
    nothing is one of them, but a group without rules is a yes.
-/
import FilterRules.Proofs.Matching

namespace FilterRules

/-- A field is one of some values if it is equal to some of them. -/
theorem Operator.holds_isIn_iff {values : List Json} {field : FieldValue} :
    Operator.isIn.holds (.array values) field = true ↔
      ∃ v ∈ values, Operator.equal.holds v field = true := by
  simp only [holds, FieldValue.anyItem_iff, List.any_eq_true]
  constructor
  · rintro ⟨item, hi, v, hv, h⟩
    exact ⟨v, hv, item, hi, h⟩
  · rintro ⟨v, hv, item, hi, h⟩
    exact ⟨item, hi, v, hv, h⟩

namespace Rule

section
variable (field : String)

/-- The field is one of the values. -/
def memberOf (values : List Json) : Rule :=
  .comparison (.ofOperator field .isIn (.array values))

/-- The field is none of the values. -/
def noMemberOf (values : List Json) : Rule :=
  .comparison (.ofOperator field .notIn (.array values))

/-- The field is equal to one of the values, each of them with a rule of its own. -/
def equalToSome (values : List Json) : Rule :=
  .group .or (values.map fun v => .comparison (.ofOperator field .equal v))

/-- The field is different from the values, each of them with a rule of its own. -/
def differentFromAll (values : List Json) : Rule :=
  .group .and (values.map fun v => .comparison (.ofOperator field .notEqual v))

end

section
variable {field : String} {record : Record} {values others : List Json}

theorem matches_memberOf_iff : (memberOf field values).matchesRecord record = true ↔
    ∃ v ∈ values, (comparison (.ofOperator field .equal v)).matchesRecord record = true := by
  have hi : Operator.isIn.negated? = none := rfl
  have he : Operator.equal.negated? = none := rfl
  simp only [memberOf, matchesRecord_ofOperator hi, matchesRecord_ofOperator he,
    Operator.holds_isIn_iff]

theorem matches_noMemberOf : (noMemberOf field values).matchesRecord record =
    !(memberOf field values).matchesRecord record := by
  rw [noMemberOf, memberOf, matchesRecord_ofNegation rfl, matchesRecord_ofOperator rfl]

theorem matches_notEqual (v : Json) :
    (comparison (.ofOperator field .notEqual v)).matchesRecord record =
      !(comparison (.ofOperator field .equal v)).matchesRecord record := by
  rw [matchesRecord_ofNegation rfl, matchesRecord_ofOperator rfl]

theorem matches_noMemberOf_iff : (noMemberOf field values).matchesRecord record = true ↔
    ∀ v ∈ values, (comparison (.ofOperator field .notEqual v)).matchesRecord record = true := by
  simp only [matches_noMemberOf, matches_notEqual, Bool.not_eq_true', ← Bool.not_eq_true,
    matches_memberOf_iff, not_exists, not_and]

/-- To be one of some values is to be equal to one of them. -/
theorem matches_memberOf_eq (h : values ≠ []) : (memberOf field values).matchesRecord record =
    (equalToSome field values).matchesRecord record := by
  have hne : (values.map fun v => comparison (.ofOperator field .equal v)) ≠ [] := by simpa using h
  rw [Bool.eq_iff_iff, matches_memberOf_iff, equalToSome, matchesRecord, evaluate_or _ hne,
    List.any_map, List.any_eq_true]
  rfl

/-- To be none of some values is to differ from each of them. -/
theorem matches_noMemberOf_eq : (noMemberOf field values).matchesRecord record =
    (differentFromAll field values).matchesRecord record := by
  rw [Bool.eq_iff_iff, matches_noMemberOf_iff, differentFromAll, matchesRecord, evaluate_and,
    List.all_map, List.all_eq_true]
  rfl

/-- More values leave more to be one of them. -/
theorem matches_memberOf_mono (h : values ⊆ others)
    (hm : (memberOf field values).matchesRecord record = true) :
    (memberOf field others).matchesRecord record = true := by
  obtain ⟨v, hv, he⟩ := matches_memberOf_iff.1 hm
  exact matches_memberOf_iff.2 ⟨v, h hv, he⟩

/-- Fewer values leave more to be none of them. -/
theorem matches_noMemberOf_anti (h : values ⊆ others)
    (hn : (noMemberOf field others).matchesRecord record = true) :
    (noMemberOf field values).matchesRecord record = true :=
  matches_noMemberOf_iff.2 fun v hv => matches_noMemberOf_iff.1 hn v (h hv)

theorem matches_memberOf_congr (h : ∀ v, v ∈ values ↔ v ∈ others) :
    (memberOf field values).matchesRecord record =
      (memberOf field others).matchesRecord record := by
  rw [Bool.eq_iff_iff]
  exact ⟨matches_memberOf_mono fun v => (h v).1, matches_memberOf_mono fun v => (h v).2⟩

end

/-- **To be one of some values is to be equal to some of them**, and to be none of them is to
    differ from each.  So only which values there are matters: the more, the more fields are one
    of them and the fewer none.  No values are valid, too. -/
theorem membership_disjunctive (field : String) (record : Record) :
    (∀ values, values ≠ [] →
      (memberOf field values).matchesRecord record =
        (equalToSome field values).matchesRecord record ∧
      (noMemberOf field values).matchesRecord record =
        (differentFromAll field values).matchesRecord record) ∧
    (∀ values others, values ⊆ others →
      ((memberOf field values).matchesRecord record = true →
        (memberOf field others).matchesRecord record = true) ∧
      ((noMemberOf field others).matchesRecord record = true →
        (noMemberOf field values).matchesRecord record = true)) ∧
    (∀ values others, (∀ v, v ∈ values ↔ v ∈ others) →
      (memberOf field values).matchesRecord record =
        (memberOf field others).matchesRecord record ∧
      (noMemberOf field values).matchesRecord record =
        (noMemberOf field others).matchesRecord record) ∧
    ((memberOf field []).matchesRecord record = false ∧
      (noMemberOf field []).matchesRecord record = true ∧
      (equalToSome field []).matchesRecord record = true) ∧
    ∀ limits : Limits,
      ((memberOf field []).validate limits = .ok () ↔ limits.Permits field .isIn) ∧
      ((noMemberOf field []).validate limits = .ok () ↔ limits.Permits field .notIn) := by
  have hnone : (memberOf field []).matchesRecord record = false := by
    rw [← Bool.not_eq_true, matches_memberOf_iff]
    simp
  refine ⟨fun values h => ⟨matches_memberOf_eq h, matches_noMemberOf_eq⟩,
    fun values others h => ⟨matches_memberOf_mono h, matches_noMemberOf_anti h⟩, ?_,
    ⟨hnone, by rw [matches_noMemberOf, hnone]; rfl, rfl⟩, fun limits => ?_⟩
  · intro values others h
    simp only [matches_noMemberOf, matches_memberOf_congr h, and_self]
  · have hf : Shape.scalars.Fits (.array []) := ⟨[], .number, rfl, by simp⟩
    exact ⟨validate_ofOperator_iff.trans (and_iff_left hf),
      validate_ofOperator_iff.trans (and_iff_left hf)⟩

/-- A list one item of which is one of two values, with a third value and with a repetition. -/
theorem membership_disjunctive_list :
    let record : Record := fun _ => .array [.string "b", .number (.signed 2)]
    let values : List Json := [.string "a", .number (.integer 2 (by decide))]
    (memberOf "tags" values).matchesRecord record = true ∧
      (equalToSome "tags" values).matchesRecord record = true ∧
      (differentFromAll "tags" values).matchesRecord record = false ∧
      (memberOf "tags" (.null :: values)).matchesRecord record = true ∧
      (noMemberOf "tags" (values ++ values)).matchesRecord record = false ∧
      (memberOf "tags" []).validate .default = .ok () := by
  intro record values
  obtain ⟨hgroup, hmono, hset, -, hvalid⟩ := membership_disjunctive "tags" record
  have hm : (memberOf "tags" values).matchesRecord record = true := by decide
  have hn : (noMemberOf "tags" values).matchesRecord record = false := by decide
  obtain ⟨hsome, hall⟩ := hgroup values (by simp [values])
  have hp : Limits.default.Permits "tags" .isIn := ⟨by decide, by decide, by decide⟩
  exact ⟨hm, hsome ▸ hm, hall ▸ hn, (hmono values (.null :: values) (by simp)).1 hm,
    (hset values (values ++ values) (by simp)).2 ▸ hn, (hvalid .default).1.2 hp⟩

end Rule

end FilterRules
