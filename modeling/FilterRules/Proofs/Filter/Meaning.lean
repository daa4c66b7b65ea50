/-
  FilterRules — what filters mean.

  The meaning of a filter is said without regard to how records are matched: a
  document store that reads its queries in this way finds the records for which a
  filter holds.

  * `candidates` are the values that a clause looks at: those of a list one by
    one, or the single value of a field;
  * `Same` says that a value is a given scalar, `Stands` in which order it stands
    to a bound, and `Has` that it is a string in which a pattern finds something;
  * `Clause.Holds` and `Filter.Holds` are the meanings of clauses and filters.
-/
import FilterRules.Filter.Basic
import FilterRules.Proofs.Filter.Pattern

namespace FilterRules

/-! ## Values -/

namespace FieldValue

/-- The values of a field that a clause looks at. -/
def candidates : FieldValue → List FieldValue
  | .array items => items
  | value => [value]

/-- A value is the same scalar as a JSON value. -/
inductive Same : FieldValue → Json → Prop
  | bool {b} : Same (.bool b) (.bool b)
  | string {s} : Same (.string s) (.string s)
  | number {m n} : (Number.ofJson m).compare n = some .eq → Same (.number n) (.number m)

/-- A value stands in an order to a bound: a number to a number, and a point in
    time, or a string that is one, to an instant cut down to its milliseconds. -/
inductive Stands : FieldValue → Bound → Ordering → Prop
  | number {n m order} : n.compare (Number.ofJson m) = some order →
      Stands (.number n) (.number m) order
  | timestamp {t bound} :
      Stands (.timestamp t) (.datetime bound) (t.compare (.ofInstant bound))
  | text {s t bound} : Timestamp.ofText? s = some t →
      Stands (.string s) (.datetime bound) (t.compare (.ofInstant bound))

/-- A value is a string in which a pattern finds something. -/
def Has (pattern : String) (value : FieldValue) : Prop :=
  ∃ s, value = .string s ∧ Pattern.Finds pattern s

end FieldValue

/-! ## Clauses and filters -/

/-- A clause holds for the value of a field. -/
def Clause.Holds (field : FieldValue) : Clause → Prop
  | .eq v => ∃ w ∈ field.candidates, w.Same v
  | .ne v => ¬ ∃ w ∈ field.candidates, w.Same v
  | .isIn vs => ∃ w ∈ field.candidates, ∃ v ∈ vs, w.Same v
  | .notIn vs => ¬ ∃ w ∈ field.candidates, ∃ v ∈ vs, w.Same v
  | .lt bound => ∃ w ∈ field.candidates, w.Stands bound .lt
  | .lte bound => ∃ w ∈ field.candidates, w.Stands bound .lt ∨ w.Stands bound .eq
  | .gt bound => ∃ w ∈ field.candidates, w.Stands bound .gt
  | .gte bound => ∃ w ∈ field.candidates, w.Stands bound .gt ∨ w.Stands bound .eq
  | .regex pattern => ∃ w ∈ field.candidates, w.Has pattern
  | .notRegex pattern => ¬ ∃ w ∈ field.candidates, w.Has pattern
  | .present expected => field ≠ .missing ↔ expected = true

namespace Filter

mutual

/-- A filter holds for a record. -/
def Holds (record : Record) : Filter → Prop
  | .and filters => HoldsEach record filters
  | .or filters => HoldsSome record filters
  | .field name clause => clause.Holds (record name)

/-- Every one of some filters holds for a record. -/
def HoldsEach (record : Record) : List Filter → Prop
  | [] => True
  | filter :: filters => filter.Holds record ∧ HoldsEach record filters

/-- One of some filters at least holds for a record. -/
def HoldsSome (record : Record) : List Filter → Prop
  | [] => False
  | filter :: filters => filter.Holds record ∨ HoldsSome record filters

end

theorem holds_and {record : Record} {filters : List Filter} :
    (and filters).Holds record ↔ ∀ f ∈ filters, f.Holds record := by
  rw [Holds]
  induction filters with
  | nil => simp [HoldsEach]
  | cons f filters ih => rw [HoldsEach, ih, List.forall_mem_cons]

theorem holds_or {record : Record} {filters : List Filter} :
    (or filters).Holds record ↔ ∃ f ∈ filters, f.Holds record := by
  rw [Holds]
  induction filters with
  | nil => simp [HoldsSome]
  | cons f filters ih => simp only [HoldsSome, ih, List.mem_cons, exists_eq_or_imp]

end Filter

end FilterRules
