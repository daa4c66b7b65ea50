/-
  FilterRules — values and the shapes that operators ask for.

  * `Shape.Fits` says what a value of a shape is;
  * `Operator.Rejects` says what is wrong with a value that an operator cannot
    use: it is a string that is no date and time where one is asked for, or else
    has another shape;
  * `checkValue_ok_iff` and `checkValue_error_iff`: the check of a value decides
    the one and finds the other.
-/
import FilterRules.Rule.Validation

namespace FilterRules

/-! ## Shapes -/

/-- A value has a shape. -/
def Shape.Fits : Shape → Json → Prop
  | .scalar, value => ∃ kind, value.scalarKind? = some kind
  | .scalars, value => ∃ items kind, value = .array items ∧
      ∀ item ∈ items, item.scalarKind? = some kind
  | .number, value => ∃ n, value = .number n
  | .datetime, value => ∃ text stamp, value = .string text ∧ Rfc3339.read text = .ok stamp
  | .text, value => ∃ text, value = .string text ∧ text ≠ ""
  | .ignored, _ => True

theorem Json.areScalars_iff {items : List Json} :
    Json.areScalars items = true ↔ ∃ kind, ∀ item ∈ items, item.scalarKind? = some kind := by
  cases items with
  | nil => exact ⟨fun _ => ⟨.number, by simp⟩, fun _ => rfl⟩
  | cons item items =>
    simp only [Json.areScalars, List.forall_mem_cons]
    cases item.scalarKind? with
    | none => simp
    | some kind => simp

/-! ## Rejected values -/

/-- An operator cannot use a value, for a reason. -/
inductive Operator.Rejects (op : Operator) : Json → RuleError.Cause → Prop
  | shape {value} : ¬ op.shape.Fits value →
      (op.shape = .datetime → ∀ text, value ≠ .string text) → Rejects op value (.invalidValue op)
  | datetime {text fault} : op.shape = .datetime → Rfc3339.read text = .error fault →
      Rejects op (.string text) (.invalidDatetime text fault.message)

theorem checkValue_ok_iff {op : Operator} {value : Json} :
    checkValue op value = .ok () ↔ op.shape.Fits value := by
  unfold checkValue
  cases op.shape with
  | scalar =>
    cases value <;> simp [Shape.Fits, Json.scalarKind?]
  | scalars =>
    cases value with
    | array items => simp [Shape.Fits, ← Json.areScalars_iff]
    | _ => simp [Shape.Fits]
  | number => cases value <;> simp [Shape.Fits]
  | datetime =>
    cases value with
    | string text =>
      cases h : Rfc3339.read text with
      | ok stamp => simp [Shape.Fits, h]
      | error fault => simp [Shape.Fits, h]
    | _ => simp [Shape.Fits]
  | text =>
    cases value with
    | string text => simp [Shape.Fits]
    | _ => simp [Shape.Fits]
  | ignored => simp [Shape.Fits]

/-- A date and time is asked for and a string is given. -/
theorem checkValue_datetime {op : Operator} (h : op.shape = .datetime) (text : String) :
    checkValue op (.string text) =
      match Rfc3339.read text with
      | .ok _ => .ok ()
      | .error fault => .error (.invalidDatetime text fault.message) := by
  cases hr : Rfc3339.read text with
  | ok stamp => simp only [checkValue, h, hr]
  | error fault => simp only [checkValue, h, hr]

/-- Anything else is refused for its shape, if it is refused. -/
theorem checkValue_shape {op : Operator} {value : Json}
    (h : op.shape = .datetime → ∀ text, value ≠ .string text) :
    checkValue op value = .ok () ∨ checkValue op value = .error (.invalidValue op) := by
  unfold checkValue
  split
  · split <;> simp
  · split <;> simp
  · exact Or.inl rfl
  · next text hs => exact absurd rfl (h hs text)
  · split <;> simp
  · exact Or.inl rfl
  · exact Or.inr rfl

/-- **The check of a value finds what is wrong with it.** -/
theorem checkValue_error_iff {op : Operator} {value : Json} {cause : RuleError.Cause} :
    checkValue op value = .error cause ↔ op.Rejects value cause := by
  constructor
  · intro h
    by_cases hd : op.shape = .datetime ∧ ∃ text, value = .string text
    · obtain ⟨hs, text, rfl⟩ := hd
      rw [checkValue_datetime hs] at h
      cases hr : Rfc3339.read text with
      | ok stamp => simp [hr] at h
      | error fault =>
        rw [hr] at h
        cases h
        exact .datetime hs hr
    · have hne : op.shape = .datetime → ∀ text, value ≠ .string text :=
        fun hs text hv => hd ⟨hs, text, hv⟩
      have hf : ¬ op.shape.Fits value := by rw [← checkValue_ok_iff, h]; simp
      rcases checkValue_shape hne with hok | herr
      · rw [h] at hok; cases hok
      · rw [h] at herr; cases herr; exact .shape hf hne
  · intro h
    cases h with
    | shape hf hne => exact (checkValue_shape hne).resolve_left (hf ∘ checkValue_ok_iff.1)
    | datetime hs hr => rw [checkValue_datetime hs, hr]

end FilterRules
