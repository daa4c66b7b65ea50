/-
  FilterRules — dates in documents as dates in rules.

  The text of a date in a document could be the value of a rule again, but a rule may
  have an offset that moves its date out of the years that four digits hold, and the
  sign that the year then has is not read.

  * `Timestamp.ofText?_render` and `checkValue_render`: what is written for an instant
    is taken for a date and time if the year has four digits and no sign;
  * `Clause.operand_datetime`: the operand of an operator that orders dates;
  * `compile_date_document`: what becomes of the date of a rule;
  * `date_document_refused`: a rule is accepted and the date in its document is not;
  * `Operator.boundKey` is where an operator has its date in a document, and `compile_date` the
    document of a comparison with a date;
  * `compile_date_again`: the date in a document stands for the timestamp that the rule had, and
    a rule with this date has the same document.
-/
import FilterRules.Proofs.Filter.Rendering
import FilterRules.Record.Value

namespace FilterRules

/-! ## Texts of instants -/

theorem Timestamp.ofInstant_toMilliseconds (t : Instant) :
    ofInstant t.toMilliseconds = ofInstant t := by
  simp only [ofInstant, Timestamp.mk.injEq, Instant.toMilliseconds, Instant.milliseconds]
  omega

/-- What is written for an instant is read as its timestamp, or not at all. -/
theorem Timestamp.ofText?_render (t : Instant) :
    ofText? (Rfc3339.render t) = if t.HasPlainYear then some (ofInstant t) else none := by
  rw [ofText?, Rfc3339.instant?_render]
  split
  · exact congrArg some (ofInstant_toMilliseconds t)
  · rfl

section
variable {op : Operator} (hs : op.shape = .datetime)
include hs

theorem checkValue_datetime_ok_iff (text : String) :
    checkValue op (.string text) = .ok () ↔ ∃ t, Rfc3339.instant? text = some t := by
  rw [checkValue_datetime hs]
  simp only [instant?_eq_some_iff]
  cases Rfc3339.read text <;> simp

/-- What is written for an instant is a value for an operator that orders dates, or not. -/
theorem checkValue_render (t : Instant) :
    checkValue op (.string (Rfc3339.render t)) = .ok () ↔ t.HasPlainYear := by
  rw [checkValue_datetime_ok_iff hs, Rfc3339.instant?_render]
  split <;> simp [*]

/-- The operand of an operator that orders dates is the date that its value means. -/
theorem Clause.operand_datetime {value : Json} {clause : Clause}
    (h : ofValue op value = .ok clause) :
    ∃ text t, value = .string text ∧ Rfc3339.instant? text = some t ∧
      clause.operand = .single "$date" (.string (Rfc3339.render t)) := by
  cases op with
  | datetimeLess | datetimeLessOrEqual | datetimeGreater | datetimeGreaterOrEqual =>
    obtain ⟨bound, hb, rfl⟩ := map_eq_ok_iff.1 h
    obtain ⟨text, t, rfl, ht, rfl⟩ := datetimeOperand_ok_iff.1 hb
    exact ⟨text, t, rfl, ht, rfl⟩
  | _ => cases hs

end

/-! ## Rules -/

namespace Rule

variable {limits : Limits} {c : Comparison} {op : Operator}

/-- **The date in the document of a rule** is written for the instant that the value of the rule
    means.  If the year of that instant, UTC, has four digits and no sign, the date is accepted
    again as a value of the operator and is read as the timestamp of the instant; otherwise it is
    refused and not read. -/
theorem compile_date_document (ho : c.operator? = some op) (hd : op.isDatetime = true)
    (hv : (comparison c).validate limits = .ok ()) :
    ∃ text t filter key date, c.value = .string text ∧ Rfc3339.instant? text = some t ∧
      (comparison c).compile limits = .ok filter ∧
      filter.document = .single c.field (.single key (.single "$date" (.string date))) ∧
      (checkValue op (.string date) = .ok () ↔ t.HasPlainYear) ∧
      Timestamp.ofText? date = if t.HasPlainYear then some (.ofInstant t) else none := by
  have hs : op.shape = .datetime := beq_iff_eq.1 hd
  obtain ⟨filter, hf⟩ := lower_total (validate_ok_iff.1 hv).2
  obtain ⟨op', clause, hc, hcl, rfl⟩ := lower_comparison_iff.1 hf
  obtain rfl : op = op' := Option.some.inj (ho.symm.trans (Comparison.check_ok_iff.1 hc).2.1)
  obtain ⟨text, t, hval, ht, hoperand⟩ := Clause.operand_datetime hs hcl
  refine ⟨text, t, _, clause.key, Rfc3339.render t, hval, ht, compile_ok_iff.2 ⟨hv, hf⟩, ?_,
    checkValue_render hs t, Timestamp.ofText?_render t⟩
  rw [Filter.document, Clause.document, hoperand]

/-- A leap second under an offset is written as the sixtieth second, UTC, and accepted. -/
theorem compile_date_document_leap : ∃ c filter key date,
    c = ⟨"at", "datetime_greater", .string "2016-12-31t20:59:60.5004\u221203:00"⟩ ∧
    (comparison c).validate .default = .ok () ∧ (comparison c).compile .default = .ok filter ∧
    filter.document = .single "at" (.single key (.single "$date" (.string date))) ∧
    checkValue .datetimeGreater (.string date) = .ok () ∧
    Timestamp.ofText? date = some ⟨1483228800500⟩ := by
  have hv : (comparison ⟨"at", "datetime_greater",
      .string "2016-12-31t20:59:60.5004\u221203:00"⟩).validate .default = .ok () := by
    decide +kernel
  obtain ⟨text, t, filter, key, date, hval, ht, hf, hdoc, hc, ho⟩ :=
    compile_date_document rfl (rfl : Operator.datetimeGreater.isDatetime = true) hv
  cases hval
  obtain rfl : (⟨1483228799, 1500400000, by decide, by decide⟩ : Instant) = t :=
    Option.some.inj (Eq.trans (by decide +kernel) ht)
  exact ⟨_, filter, key, date, rfl, hv, hf, hdoc, hc.2 (by decide +kernel),
    ho.trans (by decide +kernel)⟩

/-- A date that an offset moves to the last day of the year before the year 0. -/
theorem date_document_refused : ∃ c date,
    c = ⟨"at", "datetime_less", .string "0000-01-01T00:00:00+23:59"⟩ ∧
    (comparison c).validate .default = .ok () ∧
    ((comparison c).compile .default).map Filter.document =
      .ok (.single "at" (.single "$lt" (.single "$date" (.string date)))) ∧
    date = "-0001-12-31T00:01:00.000Z" ∧
    checkValue .datetimeLess (.string date) ≠ .ok () ∧ Timestamp.ofText? date = none := by
  refine ⟨_, _, rfl, ?_, ?_, rfl, ?_, ?_⟩
  · decide +kernel
  · decide +kernel
  · decide +kernel
  · decide +kernel

end Rule

/-! ## Dates of documents in rules -/

/-- The key that an operator that orders has in documents. -/
def Operator.boundKey : Operator → String
  | .lessOrEqual | .datetimeLessOrEqual => "$lte"
  | .greater | .datetimeGreater => "$gt"
  | .greaterOrEqual | .datetimeGreaterOrEqual => "$gte"
  | _ => "$lt"

/-- The clause of an operator that orders dates has the text of the instant. -/
theorem Clause.ofValue_date {op : Operator} {text : String} {t : Instant}
    (hs : op.shape = .datetime) (ht : Rfc3339.instant? text = some t) :
    ∃ clause, ofValue op (.string text) = .ok clause ∧
      clause.document = .single op.boundKey (.single "$date" (.string (Rfc3339.render t))) := by
  have hb : datetimeOperand op (.string text) = .ok (.datetime t) :=
    datetimeOperand_ok_iff.2 ⟨text, t, rfl, ht, rfl⟩
  cases op with
  | datetimeLess | datetimeLessOrEqual | datetimeGreater | datetimeGreaterOrEqual =>
    exact ⟨_, map_eq_ok_iff.2 ⟨_, hb, rfl⟩, rfl⟩
  | _ => cases hs

/-- Cutting down to milliseconds does not change the text of an instant. -/
theorem Rfc3339.render_toMilliseconds (t : Instant) : render t.toMilliseconds = render t := by
  refine render_eq_iff.2 (Instant.eq_of_parts rfl ?_)
  simp only [Instant.toMilliseconds]
  omega

namespace Rule

variable {limits : Limits} {field text : String} {op : Operator} {t : Instant}

theorem compile_date (hp : limits.Permits field op) (hs : op.shape = .datetime)
    (ht : Rfc3339.instant? text = some t) :
    ∃ filter, (comparison (.ofOperator field op (.string text))).compile limits = .ok filter ∧
      filter.document = .single field
        (.single op.boundKey (.single "$date" (.string (Rfc3339.render t)))) := by
  obtain ⟨clause, hv, hd⟩ := Clause.ofValue_date hs ht
  obtain ⟨stamp, hr, -⟩ := instant?_eq_some_iff.1 ht
  have hf : op.shape.Fits (.string text) := by
    rw [hs]
    exact ⟨text, stamp, rfl, hr⟩
  exact ⟨_, compile_ofOperator hp hf hv, by rw [Filter.document, hd]⟩

/-- **The date in a document means what the date of the rule does.**  If the year of the instant,
    UTC, has four digits and no sign, the date is read as the timestamp that the text of the rule
    is read as, and the rule with this date as its value has the same document. -/
theorem compile_date_again (hp : limits.Permits field op) (hd : op.isDatetime = true)
    (ht : Rfc3339.instant? text = some t) (hy : t.HasPlainYear) :
    ∃ filter again key date,
      (comparison (.ofOperator field op (.string text))).compile limits = .ok filter ∧
      filter.document = .single field (.single key (.single "$date" (.string date))) ∧
      Timestamp.ofText? text = some (.ofInstant t) ∧
      Timestamp.ofText? date = Timestamp.ofText? text ∧
      (comparison (.ofOperator field op (.string date))).compile limits = .ok again ∧
      again.document = filter.document := by
  have hs : op.shape = .datetime := beq_iff_eq.1 hd
  have htext : Timestamp.ofText? text = some (.ofInstant t) := by
    rw [Timestamp.ofText?, ht]
    rfl
  have hdate : Rfc3339.instant? (Rfc3339.render t) = some t.toMilliseconds := by
    rw [Rfc3339.instant?_render, if_pos hy]
  obtain ⟨filter, hf, hdoc⟩ := compile_date hp hs ht
  obtain ⟨again, ha, hdoc'⟩ := compile_date hp hs hdate
  refine ⟨filter, again, op.boundKey, Rfc3339.render t, hf, hdoc, htext, ?_, ha, ?_⟩
  · rw [htext, Timestamp.ofText?_render, if_pos hy]
  · rw [hdoc', hdoc, Rfc3339.render_toMilliseconds]

/-- A leap second in the middle of an hour, under an offset that moves it to the year before. -/
theorem compile_date_again_leap : ∃ filter again key date,
    (comparison (.ofOperator "at" .datetimeLess
      (.string "2017-01-01 00:44:60.98765+05:45"))).compile .default = .ok filter ∧
    filter.document = .single "at" (.single key (.single "$date" (.string date))) ∧
    Timestamp.ofText? date = some ⟨1483210800987⟩ ∧
    (comparison (.ofOperator "at" .datetimeLess (.string date))).compile .default = .ok again ∧
      again.document = filter.document := by
  have hf : isFieldName "at" = true := by decide +kernel
  have ht : Rfc3339.instant? "2017-01-01 00:44:60.98765+05:45" =
      some ⟨1483210799, 1987650000, by decide, by decide⟩ := by decide +kernel
  obtain ⟨filter, again, key, date, hc, hdoc, htext, hdate, ha, hdoc'⟩ :=
    @compile_date_again .default "at" _ .datetimeLess _ ⟨by decide, hf, rfl⟩ rfl ht
      (by decide +kernel)
  exact ⟨filter, again, key, date, hc, hdoc, hdate.trans htext, ha, hdoc'⟩

end Rule

end FilterRules
