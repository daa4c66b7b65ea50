/-
  FilterRules — the rule behind a filter.

  A filter tells the rule that it was made of, up to what the operators of the rule do not
  look at.

  * `Pattern.anchor` tells where a pattern looks for its text, and `Clause.operator` for which
    operator a clause was made (`ofValue_operator`);
  * `Shape.Agree` says when two values are the same to an operator, and `Rule.Alike` when two
    rules are, node by node;
  * `alike_of_lower` and `Alike.compile`: rules that have the same filter are alike, and a rule
    that is like one that compiles has its filter;
  * `compile_eq_iff_alike`: compiling takes no two rules for each other.
-/
import FilterRules.Proofs.Filter.Numbers
import FilterRules.Proofs.Filter.Pattern

namespace FilterRules

/-! ## Patterns -/

namespace Pattern

/-- Where a pattern looks for a text. -/
inductive Anchor where
  | start
  | anywhere
  | stop
  deriving DecidableEq

/-- Where a pattern looks for its text: at the start if that is its first piece, at the end if
    that is one of its pieces. -/
def anchor (pattern : String) : Anchor :=
  match pieces? pattern.toList with
  | some (.start :: _) => .start
  | some ps => if .stop ∈ ps then .stop else .anywhere
  | none => .anywhere

theorem map_char_injective : Function.Injective (List.map Piece.char) :=
  List.map_injective_iff.2 fun _ _ h => Piece.char.inj h

theorem anchor_startingWith (needle : String) : anchor (startingWith needle) = .start := by
  rw [anchor, pieces?_startingWith]

theorem anchor_containing (needle : String) : anchor (containing needle) = .anywhere := by
  rw [anchor, pieces?_containing]
  cases needle.toList with
  | nil => rfl
  | cons c cs => simp

theorem anchor_endingWith (needle : String) : anchor (endingWith needle) = .stop := by
  rw [anchor, pieces?_endingWith]
  cases needle.toList with
  | nil => rfl
  | cons c cs => simp

theorem startingWith_injective : Function.Injective startingWith := by
  intro s t h
  have hp := congrArg (fun pattern : String => pieces? pattern.toList) h
  simp only [pieces?_startingWith, List.append_nil, Option.some.injEq, List.cons.injEq,
    true_and] at hp
  exact String.toList_injective (map_char_injective hp)

theorem containing_injective : Function.Injective containing := by
  intro s t h
  have hp := congrArg (fun pattern : String => pieces? pattern.toList) h
  simp only [pieces?_containing, List.append_nil, Option.some.injEq] at hp
  exact String.toList_injective (map_char_injective hp)

theorem endingWith_injective : Function.Injective endingWith := by
  intro s t h
  have hp := congrArg (fun pattern : String => pieces? pattern.toList) h
  simp only [pieces?_endingWith, Option.some.injEq] at hp
  exact String.toList_injective (map_char_injective (List.append_cancel_right hp))

end Pattern

/-! ## Clauses -/

namespace Clause

/-- The operator that a clause was made for. -/
def operator : Clause → Operator
  | .eq .null => .isNull
  | .eq (.array _) => .isEmpty
  | .eq _ => .equal
  | .ne .null => .isNotNull
  | .ne (.array _) => .isNotEmpty
  | .ne _ => .notEqual
  | .isIn _ => .isIn
  | .notIn _ => .notIn
  | .lt (.number _) => .less
  | .lt (.datetime _) => .datetimeLess
  | .lte (.number _) => .lessOrEqual
  | .lte (.datetime _) => .datetimeLessOrEqual
  | .gt (.number _) => .greater
  | .gt (.datetime _) => .datetimeGreater
  | .gte (.number _) => .greaterOrEqual
  | .gte (.datetime _) => .datetimeGreaterOrEqual
  | .regex pattern =>
    match Pattern.anchor pattern with
    | .start => .beginsWith
    | .anywhere => .contains
    | .stop => .endsWith
  | .notRegex pattern =>
    match Pattern.anchor pattern with
    | .start => .notBeginsWith
    | .anywhere => .notContains
    | .stop => .notEndsWith
  | .present true => .exist
  | .present false => .notExist

/-- **A clause tells its operator.** -/
theorem ofValue_operator {op : Operator} {value : Json} {clause : Clause}
    (hs : op.shape.Fits value) (h : ofValue op value = .ok clause) : clause.operator = op := by
  cases op with
  | equal | notEqual =>
    cases h
    obtain ⟨kind, hk⟩ := hs
    cases value with
    | null | array => cases hk
    | _ => rfl
  | isIn | notIn =>
    obtain ⟨items, -, rfl⟩ := map_eq_ok_iff.1 h
    rfl
  | less | lessOrEqual | greater | greaterOrEqual =>
    obtain ⟨n, rfl⟩ := hs
    cases h
    rfl
  | datetimeLess | datetimeLessOrEqual | datetimeGreater | datetimeGreaterOrEqual =>
    obtain ⟨text, stamp, rfl, hr⟩ := hs
    simp only [ofValue, datetimeOperand, hr] at h
    cases h
    rfl
  | beginsWith | notBeginsWith =>
    obtain ⟨text, -, rfl⟩ := map_eq_ok_iff.1 h
    simp only [Function.comp_apply, operator, Pattern.anchor_startingWith]
  | contains | notContains =>
    obtain ⟨text, -, rfl⟩ := map_eq_ok_iff.1 h
    simp only [Function.comp_apply, operator, Pattern.anchor_containing]
  | endsWith | notEndsWith =>
    obtain ⟨text, -, rfl⟩ := map_eq_ok_iff.1 h
    simp only [Function.comp_apply, operator, Pattern.anchor_endingWith]
  | isEmpty | isNotEmpty | isNull | isNotNull | exist | notExist =>
    cases h
    rfl

end Clause

/-! ## Values -/

/-- Two values are the same to an operator that asks for a shape: an ignored value is like any
    other, and dates and times need only be the same instant. -/
def Shape.Agree : Shape → Json → Json → Prop
  | .ignored, _, _ => True
  | .datetime, v, w => ∃ s t instant, v = .string s ∧ w = .string t ∧
      Rfc3339.instant? s = some instant ∧ Rfc3339.instant? t = some instant
  | _, v, w => v = w

theorem Shape.Agree.refl {shape : Shape} {value : Json} (h : shape.Fits value) :
    shape.Agree value value := by
  cases shape with
  | datetime =>
    obtain ⟨text, stamp, rfl, hr⟩ := h
    have hi := instant?_eq_some_iff.2 ⟨stamp, hr, rfl⟩
    exact ⟨text, text, _, rfl, rfl, hi, hi⟩
  | ignored => trivial
  | scalar | scalars | number | text => rfl

/-- A value that is the same to an operator has the shape, too. -/
theorem Shape.Agree.fits {shape : Shape} {v w : Json} (h : shape.Agree v w)
    (hv : shape.Fits v) : shape.Fits w := by
  cases shape with
  | datetime =>
    obtain ⟨_, t, _, -, rfl, -, ht⟩ := h
    obtain ⟨stamp, hr, -⟩ := instant?_eq_some_iff.1 ht
    exact ⟨t, stamp, rfl, hr⟩
  | ignored => trivial
  | scalar | scalars | number | text =>
    cases h
    exact hv

namespace Clause

variable {op : Operator} {v w : Json} {clause : Clause}

/-- Values that are the same to an operator have the same clause. -/
theorem ofValue_congr (h : op.shape.Agree v w) (hv : ofValue op v = .ok clause) :
    ofValue op w = .ok clause := by
  cases op with
  | isEmpty | isNotEmpty | isNull | isNotNull | exist | notExist => exact hv
  | datetimeLess | datetimeLessOrEqual | datetimeGreater | datetimeGreaterOrEqual =>
    obtain ⟨_, _, instant, rfl, rfl, hi, hi'⟩ := h
    obtain ⟨bound, hb, rfl⟩ := map_eq_ok_iff.1 hv
    obtain ⟨_, _, hs, hi'', rfl⟩ := datetimeOperand_ok_iff.1 hb
    cases hs
    rw [hi, Option.some.injEq] at hi''
    subst hi''
    exact map_eq_ok_iff.2 ⟨_, datetimeOperand_ok_iff.2 ⟨_, _, rfl, hi', rfl⟩, rfl⟩
  | _ =>
    cases h
    exact hv

/-- An operand that tells its value, put into a form of clause, tells it still. -/
theorem eq_of_operand {α : Type} {operand : Json → Except RuleError.Cause α} {form : α → Clause}
    (ho : ∀ {v w a}, operand v = .ok a → operand w = .ok a → v = w)
    (hf : Function.Injective form) (hv : (operand v).map form = .ok clause)
    (hw : (operand w).map form = .ok clause) : v = w := by
  obtain ⟨a, ha, rfl⟩ := map_eq_ok_iff.1 hv
  obtain ⟨b, hb, he⟩ := map_eq_ok_iff.1 hw
  obtain rfl : a = b := hf he
  exact ho ha hb

theorem listOperand_inj {items : List Json} (hv : listOperand op v = .ok items)
    (hw : listOperand op w = .ok items) : v = w :=
  (listOperand_ok_iff.1 hv).trans (listOperand_ok_iff.1 hw).symm

theorem numberOperand_inj {bound : Bound} (hv : numberOperand op v = .ok bound)
    (hw : numberOperand op w = .ok bound) : v = w := by
  obtain ⟨n, rfl, rfl⟩ := numberOperand_ok_iff.1 hv
  obtain ⟨_, rfl, he⟩ := numberOperand_ok_iff.1 hw
  rw [Bound.number.inj he]

theorem textOperand_inj {text : String} (hv : textOperand op v = .ok text)
    (hw : textOperand op w = .ok text) : v = w :=
  (textOperand_ok_iff.1 hv).1.trans (textOperand_ok_iff.1 hw).1.symm

/-- Values that have the same clause are the same to the operator. -/
theorem agree_of_ofValue (hv : ofValue op v = .ok clause) (hw : ofValue op w = .ok clause) :
    op.shape.Agree v w := by
  cases op with
  | isEmpty | isNotEmpty | isNull | isNotNull | exist | notExist => trivial
  | equal | notEqual =>
    cases hv
    cases hw
    rfl
  | isIn | notIn => exact eq_of_operand listOperand_inj (fun _ _ h => by cases h; rfl) hv hw
  | less | lessOrEqual | greater | greaterOrEqual =>
    exact eq_of_operand numberOperand_inj (fun _ _ h => by cases h; rfl) hv hw
  | datetimeLess | datetimeLessOrEqual | datetimeGreater | datetimeGreaterOrEqual =>
    obtain ⟨_, hb, rfl⟩ := map_eq_ok_iff.1 hv
    obtain ⟨_, hb', he⟩ := map_eq_ok_iff.1 hw
    obtain ⟨s, instant, rfl, hs, rfl⟩ := datetimeOperand_ok_iff.1 hb
    obtain ⟨t, _, rfl, ht, rfl⟩ := datetimeOperand_ok_iff.1 hb'
    cases he
    exact ⟨s, t, instant, rfl, rfl, hs, ht⟩
  | beginsWith | notBeginsWith =>
    exact eq_of_operand textOperand_inj
      (fun _ _ h => Pattern.startingWith_injective (by simpa using h)) hv hw
  | contains | notContains =>
    exact eq_of_operand textOperand_inj
      (fun _ _ h => Pattern.containing_injective (by simpa using h)) hv hw
  | endsWith | notEndsWith =>
    exact eq_of_operand textOperand_inj
      (fun _ _ h => Pattern.endingWith_injective (by simpa using h)) hv hw

end Clause

/-! ## Rules that are alike -/

/-- Two comparisons have the same field and operator and values that are the same to it. -/
structure Comparison.Alike (c d : Comparison) : Prop where
  field : c.field = d.field
  operatorName : c.operatorName = d.operatorName
  value : ∃ op, c.operator? = some op ∧ op.shape.Agree c.value d.value

/-- Two rules are trees of one shape, with the same conditions and with comparisons that are
    alike. -/
def Rule.Alike : Rule → Rule → Prop := Rule.Rel Comparison.Alike

theorem Operator.ofName?_eq_some_iff {name : String} {op : Operator} :
    Operator.ofName? name = some op ↔ name = op.name := by
  constructor
  · intro h
    have := List.find?_some h
    exact (beq_iff_eq.1 this).symm
  · rintro rfl
    exact Operator.ofName_name op

namespace Comparison

variable {limits : Limits} {c d : Comparison} {op op' : Operator} {clause : Clause}

/-- Comparisons with the same clause have the same operator and values that are the same to it,
    whatever their fields are. -/
theorem agree_of_clause (hc : c.check limits = .ok op) (hd : d.check limits = .ok op')
    (hv : Clause.ofValue op c.value = .ok clause) (hw : Clause.ofValue op' d.value = .ok clause) :
    c.operatorName = d.operatorName ∧ c.operator? = some op ∧ op.shape.Agree c.value d.value := by
  obtain ⟨-, ho, -, hs⟩ := check_ok_iff.1 hc
  obtain ⟨-, ho', -, hs'⟩ := check_ok_iff.1 hd
  obtain rfl : op = op' :=
    (Clause.ofValue_operator hs hv).symm.trans (Clause.ofValue_operator hs' hw)
  have hn : c.operatorName = op.name := Operator.ofName?_eq_some_iff.1 ho
  have hn' : d.operatorName = op.name := Operator.ofName?_eq_some_iff.1 ho'
  exact ⟨hn.trans hn'.symm, ho, Clause.agree_of_ofValue hv hw⟩

theorem Alike.check (h : c.Alike d) (hc : c.check limits = .ok op) :
    d.check limits = .ok op ∧ op.shape.Agree c.value d.value := by
  obtain ⟨hf, ho, ha, hs⟩ := check_ok_iff.1 hc
  obtain ⟨op', ho', hv⟩ := h.value
  rw [ho, Option.some.injEq] at ho'
  subst ho'
  refine ⟨check_ok_iff.2 ⟨h.field ▸ hf, ?_, ha, hv.fits hs⟩, hv⟩
  rw [operator?, ← h.operatorName]
  exact ho

end Comparison

namespace Rule

variable {limits : Limits}

theorem join_inj {condition condition' : Condition} {filters filters' : List Filter}
    (h : Filter.join condition filters = Filter.join condition' filters') :
    condition = condition' ∧ filters = filters' := by
  cases condition <;> cases condition' <;> cases h <;> exact ⟨rfl, rfl⟩

theorem join_ne_field {condition : Condition} {filters : List Filter} {name : String}
    {clause : Clause} : Filter.join condition filters ≠ .field name clause := by
  cases condition <;> exact Filter.noConfusion

variable {rule rule' : Rule} {filter filter' : Filter}

/-- Rules that have the same filter are alike. -/
theorem alike_of_lower (h : rule.lower limits = .ok filter)
    (h' : rule'.lower limits = .ok filter) : rule.Alike rule' := by
  induction rule generalizing rule' filter with
  | comparison c =>
    obtain ⟨op, clause, hc, hv, rfl⟩ := lower_comparison_iff.1 h
    cases rule' with
    | comparison d =>
      obtain ⟨op', _, hd, hw, he⟩ := lower_comparison_iff.1 h'
      obtain ⟨hf, rfl⟩ := Filter.field.inj he
      obtain ⟨hn, ho, ha⟩ := Comparison.agree_of_clause hc hd hv hw
      exact .comparison ⟨hf, hn, op, ho, ha⟩
    | group condition rules =>
      obtain ⟨_, -, he⟩ := lower_group_iff.1 h'
      exact absurd he.symm join_ne_field
  | group condition rules ih =>
    obtain ⟨filters, hf, rfl⟩ := lower_group_iff.1 h
    cases rule' with
    | comparison d =>
      obtain ⟨_, _, -, -, he⟩ := lower_comparison_iff.1 h'
      exact absurd he join_ne_field
    | group condition' rules' =>
      obtain ⟨_, hf', he⟩ := lower_group_iff.1 h'
      obtain ⟨rfl, rfl⟩ := join_inj he
      exact .group (forall₂_of_common hf hf' fun r hm _ _ _ => ih r hm)

/-- Rules that are alike have the same filter. -/
theorem Alike.lower (ha : rule.Alike rule') (h : rule.lower limits = .ok filter) :
    rule'.lower limits = .ok filter := by
  induction rule generalizing rule' filter with
  | comparison c =>
    obtain ⟨op, clause, hc, hv, rfl⟩ := lower_comparison_iff.1 h
    cases ha with
    | comparison ha =>
      obtain ⟨hd, hagree⟩ := ha.check hc
      rw [ha.field]
      exact lower_comparison_iff.2 ⟨op, clause, hd, Clause.ofValue_congr hagree hv, rfl⟩
  | group condition rules ih =>
    obtain ⟨filters, hf, rfl⟩ := lower_group_iff.1 h
    cases ha with
    | group ha =>
      refine lower_group_iff.2 ⟨filters, ?_, rfl⟩
      exact forall₂_of_common ha.flip hf.flip fun _ _ _ r hm hr hf => ih r hm hr hf

theorem Alike.check (ha : rule.Alike rule') (h : rule.check limits = .ok ()) :
    rule'.check limits = .ok () := by
  induction rule generalizing rule' with
  | comparison c =>
    obtain ⟨op, hc⟩ := check_comparison_ok_iff.1 h
    cases ha with
    | comparison ha => exact check_comparison_ok_iff.2 ⟨op, (ha.check hc).1⟩
  | group condition rules ih =>
    obtain ⟨hne, hr⟩ := check_group_ok_iff.1 h
    cases ha with
    | @group _ _ rules' ha =>
      refine check_group_ok_iff.2 ⟨?_, fun r' hm' => ?_⟩
      · rintro rfl
        cases ha
        exact hne rfl
      · obtain ⟨r, hm, har⟩ := exists_of_mem_right ha hm'
        exact ih r hm har (hr r hm)

/-- A rule that is like one that compiles does so, too, and to the same filter. -/
theorem Alike.compile (ha : rule.Alike rule') (h : rule.compile limits = .ok filter) :
    rule'.compile limits = .ok filter := by
  obtain ⟨hv, hl⟩ := compile_ok_iff.1 h
  obtain ⟨hd, hc⟩ := validate_ok_iff.1 hv
  exact compile_ok_iff.2 ⟨validate_ok_iff.2 ⟨Rel.depth ha ▸ hd, ha.check hc⟩, ha.lower hl⟩

/-- Rules that compile have the same filter if and only if they are alike. -/
theorem compile_eq_iff (h : rule.compile limits = .ok filter)
    (h' : rule'.compile limits = .ok filter') : filter = filter' ↔ rule.Alike rule' := by
  have hl := (compile_ok_iff.1 h).2
  have hl' := (compile_ok_iff.1 h').2
  constructor
  · rintro rfl
    exact alike_of_lower hl hl'
  · intro ha
    have he := (ha.lower hl).symm.trans hl'
    exact Except.ok.inj he

/-- Two comparisons with the same pattern have the same operator and the same text. -/
theorem eq_of_regex {c d : Comparison} {pattern : String}
    (h : (comparison c).lower limits = .ok (.field c.field (.regex pattern)))
    (h' : (comparison d).lower limits = .ok (.field d.field (.regex pattern))) :
    c.operatorName = d.operatorName ∧ c.value = d.value := by
  obtain ⟨op, clause, hc, hv, he⟩ := lower_comparison_iff.1 h
  obtain ⟨op', clause', hd, hw, he'⟩ := lower_comparison_iff.1 h'
  cases he
  cases he'
  obtain ⟨hn, ho, ha⟩ := Comparison.agree_of_clause hc hd hv hw
  have hs : op.shape = .text := by
    rw [← Clause.ofValue_operator (Comparison.check_ok_iff.1 hc).2.2.2 hv, Clause.operator]
    cases Pattern.anchor pattern <;> rfl
  rw [hs] at ha
  exact ⟨hn, ha⟩

/-- **Compiling takes no two rules for each other**: under limits that both keep, their filters
    are equal if and only if the rules are alike, and so they are where numbers are told apart
    less finely than by their bits, as when the sign of a zero does not count.  A pattern alone
    tells which operator and which text it was made of. -/
theorem compile_eq_iff_alike (h : rule.compile limits = .ok filter)
    (h' : rule'.compile limits = .ok filter') :
    (filter = filter' ↔ rule.Alike rule') ∧
    (∀ g, filter.mapNumbers g = filter'.mapNumbers g ↔
      (rule.mapNumbers g).Alike (rule'.mapNumbers g)) ∧
    ∀ c d pattern, rule = .comparison c → rule' = .comparison d →
      filter = .field c.field (.regex pattern) → filter' = .field d.field (.regex pattern) →
      c.operatorName = d.operatorName ∧ c.value = d.value := by
  refine ⟨compile_eq_iff h h', fun g => ?_, ?_⟩
  · have hg : (rule.mapNumbers g).compile limits = .ok (filter.mapNumbers g) := by
      rw [compile_mapNumbers, h]
      rfl
    have hg' : (rule'.mapNumbers g).compile limits = .ok (filter'.mapNumbers g) := by
      rw [compile_mapNumbers, h']
      rfl
    exact compile_eq_iff hg hg'
  · rintro c d pattern rfl rfl rfl rfl
    exact eq_of_regex (compile_ok_iff.1 h).2 (compile_ok_iff.1 h').2

/-- The same instant under two offsets. -/
theorem compile_eq_iff_alike_offsets : ∃ (rule rule' : Rule) (filter : Filter),
    rule = .comparison ⟨"at", "datetime_less", .string "2024-01-01T08:00:00+08:00"⟩ ∧
    rule' = .comparison ⟨"at", "datetime_less", .string "2024-01-01 00:00:00Z"⟩ ∧
    rule.compile .default = .ok filter ∧ rule'.compile .default = .ok filter ∧
      rule.Alike rule' := by
  have h (text : String) (t : Instant) (ht : Rfc3339.instant? text = some t) :
      (comparison ⟨"at", "datetime_less", .string text⟩).compile .default =
        .ok (.field "at" (.lt (.datetime t))) := by
    obtain ⟨stamp, hr, -⟩ := instant?_eq_some_iff.1 ht
    have hf : isFieldName "at" = true := by decide +kernel
    have hc : Comparison.check .default ⟨"at", "datetime_less", .string text⟩ =
        .ok .datetimeLess := Comparison.check_ok_iff.2 ⟨hf, rfl, rfl, text, stamp, rfl, hr⟩
    have hv : Clause.ofValue .datetimeLess (.string text) = .ok (.lt (.datetime t)) :=
      map_eq_ok_iff.2 ⟨_, datetimeOperand_ok_iff.2 ⟨text, t, rfl, ht, rfl⟩, rfl⟩
    have hd : (comparison ⟨"at", "datetime_less", .string text⟩).depth ≤
        Limits.default.maxDepth := (by decide : 1 ≤ Limits.default.maxDepth)
    refine compile_ok_iff.2 ⟨validate_ok_iff.2 ⟨hd, ?_⟩, ?_⟩
    · exact check_comparison_ok_iff.2 ⟨_, hc⟩
    · exact lower_comparison_iff.2 ⟨_, _, hc, hv, rfl⟩
  have hl := h "2024-01-01T08:00:00+08:00" ⟨1704067200, 0, by decide, by decide⟩
    (by decide +kernel)
  have hr := h "2024-01-01 00:00:00Z" ⟨1704067200, 0, by decide, by decide⟩ (by decide +kernel)
  exact ⟨_, _, _, rfl, rfl, hl, hr, (compile_eq_iff_alike hl hr).1.1 rfl⟩

end Rule

end FilterRules
