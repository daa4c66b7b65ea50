/-
  FilterRules — the documents of filters.

  Whatever stands in a rule that compiles, its document is a query of one closed
  form, and no object in it has come out of the rule.

  * `Query.Term` says which operands the keys of a clause may have, and `Query`
    what a document looks like; `Query.FieldOf` says that a key is the name of a
    field that a value holds where rules are read from it;
  * `Json.SameButObjects` puts anything in place of the objects of a value;
  * `lower_query`: a rule that passes its check has a query for its document;
  * `alike_of_sameButObjects`: what the objects in such a rule are does not
    matter;
  * `compile_document_query`: nothing of what is read as a rule becomes a part of
    the query, its scalars and its field names apart.
-/
import FilterRules.Proofs.Filter.Origin
import FilterRules.Proofs.Rule.Reading

namespace FilterRules

/-! ## Queries -/

namespace Query

/-- What may stand under the key of a clause. -/
inductive Term : String → Json → Prop
  | equality {key value} : key = "$eq" ∨ key = "$ne" →
      (∃ kind, value.scalarKind? = some kind) ∨ value = .null ∨ value = .array [] →
      Term key value
  | membership {key items kind} : key = "$in" ∨ key = "$nin" →
      (∀ item ∈ items, item.scalarKind? = some kind) → Term key (.array items)
  | order {key bound} : key ∈ ["$lt", "$lte", "$gt", "$gte"] →
      (∃ n, bound = .number n) ∨ (∃ text, bound = .single "$date" (.string text)) →
      Term key bound
  | pattern {text} : Term "$regex" (.string text)
  | noPattern {text} : Term "$not" (.single "$regex" (.string text))
  | presence {expected} : Term "$exists" (.bool expected)

/-- The keys of a query that are no fields. -/
def keywords : List String :=
  ["$and", "$or", "$eq", "$ne", "$in", "$nin", "$lt", "$lte", "$gt", "$gte", "$regex", "$not",
   "$exists", "$date"]

/-- A name is that of a field, so that it starts with a letter and is no keyword, and one of
    the nodes of what is read as a rule has it under its key `field`. -/
structure FieldOf (node : Json) (name : String) : Prop where
  isFieldName : isFieldName name = true
  starts : ∃ c rest, name.toList = c :: rest ∧ c.isAlpha = true
  noDollar : '$' ∉ name.toList
  given : ∃ address ms, Preorder.descend Json.subnodes address node = some (.object ms) ∧
    Json.Members.find? ms "field" = some (.string name)

end Query

/-- A document is a query: documents joined, one at least, or a term under the name of a
    field. -/
inductive Query (IsField : String → Prop) : Json → Prop
  | group {key documents} : key = "$and" ∨ key = "$or" → documents ≠ [] →
      (∀ document ∈ documents, Query IsField document) →
      Query IsField (.single key (.array documents))
  | field {name key operand} : IsField name → Query.Term key operand →
      Query IsField (.single name (.single key operand))

/-! ## Values inside values -/

namespace Json

theorem inside_single {part value : Json} {key : String} :
    Inside part (.single key value) ↔ part = .single key value ∨ Inside part value := by
  constructor
  · intro h
    rw [single] at h
    cases h with
    | refl => exact .inl rfl
    | member hm h =>
      cases List.mem_singleton.1 hm
      exact .inr h
  · rintro (rfl | h)
    · exact .refl
    · exact .member (List.mem_singleton.2 rfl) h

theorem not_inside_scalar {ms : Members} {value : Json} {kind : ScalarKind}
    (h : value.scalarKind? = some kind) : ¬ Inside (.object ms) value := by
  intro hi
  cases hi <;> cases h

end Json

namespace Query

variable {ms : Json.Members}

/-- The objects in a term are those that dates and patterns are put into. -/
theorem Term.inside {key : String} {operand : Json} (ht : Term key operand)
    (h : Json.Inside (.object ms) operand) :
    ∃ text, ms = [("$date", .string text)] ∨ ms = [("$regex", .string text)] := by
  cases ht with
  | equality _ hv =>
    rcases hv with ⟨kind, hv⟩ | rfl | rfl
    · exact absurd h (Json.not_inside_scalar hv)
    · cases h
    · rcases Json.inside_array.1 h with h | ⟨item, hi, -⟩
      · cases h
      · cases hi
  | membership _ hi =>
    rcases Json.inside_array.1 h with h | ⟨item, hm, h⟩
    · cases h
    · exact absurd h (Json.not_inside_scalar (hi item hm))
  | order _ hb =>
    rcases hb with ⟨n, rfl⟩ | ⟨text, rfl⟩
    · cases h
    · rcases Json.inside_single.1 h with h | h
      · cases h
        exact ⟨text, .inl rfl⟩
      · cases h
  | @noPattern text =>
    rcases Json.inside_single.1 h with h | h
    · cases h
      exact ⟨text, .inr rfl⟩
    · cases h
  | pattern | presence => cases h

theorem Term.key_mem {key : String} {operand : Json} (h : Term key operand) : key ∈ keywords := by
  cases h with
  | equality hk | membership hk => rcases hk with rfl | rfl <;> decide
  | order hk =>
    simp only [List.mem_cons, List.not_mem_nil, or_false] at hk
    rcases hk with rfl | rfl | rfl | rfl <;> decide
  | pattern | noPattern | presence => decide

variable {IsField : String → Prop} {document : Json}

/-- **An object in a query has one key**, a keyword or the name of a field. -/
theorem inside (hq : Query IsField document) (h : Json.Inside (.object ms) document) :
    ∃ key value, ms = [(key, value)] ∧ (key ∈ keywords ∨ IsField key) := by
  induction hq with
  | @group key documents hk _ _ ih =>
    rcases Json.inside_single.1 h with h | h
    · cases h
      refine ⟨key, _, rfl, .inl ?_⟩
      rcases hk with rfl | rfl <;> decide
    · rcases Json.inside_array.1 h with h | ⟨item, hi, h⟩
      · cases h
      · exact ih item hi h
  | @field name key operand hf ht =>
    rcases Json.inside_single.1 h with h | h
    · cases h
      exact ⟨name, _, rfl, .inr hf⟩
    · rcases Json.inside_single.1 h with h | h
      · cases h
        exact ⟨key, operand, rfl, .inl ht.key_mem⟩
      · obtain ⟨text, rfl | rfl⟩ := ht.inside h
        · exact ⟨_, _, rfl, .inl (by decide)⟩
        · exact ⟨_, _, rfl, .inl (by decide)⟩

end Query

/-! ## Clauses -/

/-- The clause of a value that the operator asks for is a term. -/
theorem Clause.ofValue_term {op : Operator} {value : Json} {clause : Clause}
    (hs : op.shape.Fits value) (h : ofValue op value = .ok clause) :
    Query.Term clause.key clause.operand := by
  cases op with
  | equal =>
    cases h
    exact .equality (.inl rfl) (.inl hs)
  | notEqual =>
    cases h
    exact .equality (.inr rfl) (.inl hs)
  | isIn =>
    obtain ⟨items, kind, rfl, hk⟩ := hs
    cases h
    exact .membership (.inl rfl) hk
  | notIn =>
    obtain ⟨items, kind, rfl, hk⟩ := hs
    cases h
    exact .membership (.inr rfl) hk
  | less | lessOrEqual | greater | greaterOrEqual =>
    obtain ⟨n, rfl⟩ := hs
    cases h
    exact .order (by simp [key]) (.inl ⟨n, rfl⟩)
  | datetimeLess | datetimeLessOrEqual | datetimeGreater | datetimeGreaterOrEqual =>
    obtain ⟨bound, hb, rfl⟩ := map_eq_ok_iff.1 h
    obtain ⟨text, instant, -, -, rfl⟩ := datetimeOperand_ok_iff.1 hb
    exact .order (by simp [key]) (.inr ⟨_, rfl⟩)
  | beginsWith | contains | endsWith =>
    obtain ⟨text, -, rfl⟩ := map_eq_ok_iff.1 h
    exact .pattern
  | notBeginsWith | notContains | notEndsWith =>
    obtain ⟨text, -, rfl⟩ := map_eq_ok_iff.1 h
    exact .noPattern
  | isEmpty =>
    cases h
    exact .equality (.inl rfl) (.inr (.inr rfl))
  | isNotEmpty =>
    cases h
    exact .equality (.inr rfl) (.inr (.inr rfl))
  | isNull =>
    cases h
    exact .equality (.inl rfl) (.inr (.inl rfl))
  | isNotNull =>
    cases h
    exact .equality (.inr rfl) (.inr (.inl rfl))
  | exist | notExist =>
    cases h
    exact .presence

/-! ## Field names -/

theorem isFieldName_iff {name : String} : isFieldName name = true ↔
    ∃ c rest, name.toList = c :: rest ∧ c.isAlpha = true ∧ ∀ d ∈ rest, isFieldChar d = true := by
  unfold isFieldName
  cases name.toList with
  | nil => simp
  | cons c rest => simp [List.all_eq_true]

theorem isFieldChar_dollar : isFieldChar '$' = false := by decide +kernel

theorem dollar_not_mem {name : String} (h : isFieldName name = true) : '$' ∉ name.toList := by
  obtain ⟨c, rest, hn, hc, hr⟩ := isFieldName_iff.1 h
  rw [hn, List.mem_cons]
  rintro (rfl | hd)
  · exact absurd hc (by decide)
  · have hf : isFieldChar '$' = true := hr _ hd
    rw [isFieldChar_dollar] at hf
    cases hf

/-- The fields of a rule that has been read are where they have been read from. -/
theorem Query.fieldOf {node : Json} {rule : Rule} {c : Comparison}
    (hn : (Rule.readNode node).result = .ok rule) (hc : c ∈ rule.comparisons)
    (hf : FilterRules.isFieldName c.field = true) : Query.FieldOf node c.field := by
  obtain ⟨address, ms, hd, hm⟩ := Rule.ofMembers_of_mem_comparisons hn hc
  obtain ⟨d, rest, hl, ha, -⟩ := isFieldName_iff.1 hf
  refine ⟨hf, ⟨d, rest, hl, ha⟩, dollar_not_mem hf, address, ms, hd, ?_⟩
  rcases stringMember_ok_iff.1 (ofMembers_ok_iff.1 hm).1 with h | ⟨h, -⟩
  · exact h
  · rw [h] at hl
    cases hl

/-! ## Rules -/

/-- The second value is the first one with anything in place of its objects. -/
inductive Json.SameButObjects : Json → Json → Prop
  | refl {value} : SameButObjects value value
  | object {ms value} : SameButObjects (.object ms) value
  | array {items items'} : List.Forall₂ SameButObjects items items' →
      SameButObjects (.array items) (.array items')

/-- The second comparison is the first one with anything in place of the objects of its
    value. -/
structure Comparison.SameButObjects (c d : Comparison) : Prop where
  field : c.field = d.field
  operatorName : c.operatorName = d.operatorName
  value : c.value.SameButObjects d.value

namespace Json.SameButObjects

variable {v w : Json}

theorem eq_of_scalar {kind : ScalarKind} (h : v.SameButObjects w)
    (hk : v.scalarKind? = some kind) : v = w := by
  cases h with
  | refl => rfl
  | object | array => cases hk

theorem eq_of_scalars {kind : ScalarKind} {items : List Json}
    (h : (Json.array items).SameButObjects w)
    (hk : ∀ item ∈ items, item.scalarKind? = some kind) : .array items = w := by
  cases h with
  | refl => rfl
  | @array _ items' h =>
    have he : List.Forall₂ (· = ·) items items' :=
      ((List.forall₂_and_left _ _).2 ⟨hk, h⟩).imp fun v w h => h.2.eq_of_scalar h.1
    rw [List.forall₂_eq_eq_eq] at he
    rw [he]

/-- What an operator looks at are no objects. -/
theorem agree {shape : Shape} (h : v.SameButObjects w) (hs : shape.Fits v) :
    shape.Agree v w := by
  cases shape with
  | ignored => trivial
  | scalar =>
    obtain ⟨kind, hk⟩ := hs
    exact h.eq_of_scalar hk
  | scalars =>
    obtain ⟨items, kind, rfl, hk⟩ := hs
    exact h.eq_of_scalars hk
  | number =>
    obtain ⟨n, rfl⟩ := hs
    exact h.eq_of_scalar rfl
  | datetime =>
    obtain rfl : v = w := by
      obtain ⟨text, stamp, rfl, -⟩ := hs
      exact h.eq_of_scalar rfl
    exact .refl hs
  | text =>
    obtain ⟨text, rfl, -⟩ := hs
    exact h.eq_of_scalar rfl

end Json.SameButObjects

namespace Rule

variable {limits : Limits} {rule rule' : Rule} {filter : Filter}

/-- The comparisons of a rule that passes its check pass theirs. -/
theorem check_of_mem_comparisons {c : Comparison} (h : rule.check limits = .ok ())
    (hc : c ∈ rule.comparisons) : ∃ op, c.check limits = .ok op := by
  induction rule with
  | comparison d =>
    cases List.mem_singleton.1 hc
    exact check_comparison_ok_iff.1 h
  | group condition rules ih =>
    obtain ⟨r, hr, hc⟩ := mem_comparisons_group.1 hc
    exact ih r hr ((check_group_ok_iff.1 h).2 r hr) hc

/-- A rule that passes its check is like the same rule with other objects in its values. -/
theorem alike_of_sameButObjects (h : rule.check limits = .ok ())
    (hr : Rel Comparison.SameButObjects rule rule') : rule.Alike rule' := by
  refine Rel.imp (fun c hc d hd => ?_) hr
  obtain ⟨op, hc⟩ := check_of_mem_comparisons h hc
  obtain ⟨-, ho, -, hs⟩ := Comparison.check_ok_iff.1 hc
  exact ⟨hd.field, hd.operatorName, op, ho, hd.value.agree hs⟩

theorem documents_eq (filters : List Filter) :
    Filter.documents filters = filters.map Filter.document := by
  induction filters with
  | nil => rfl
  | cons f filters ih => rw [Filter.documents, ih, List.map_cons]

theorem join_document (condition : Condition) (filters : List Filter) :
    ∃ key, (key = "$and" ∨ key = "$or") ∧ (Filter.join condition filters).document =
      .single key (.array (filters.map Filter.document)) := by
  cases condition with
  | and => exact ⟨"$and", .inl rfl, by rw [Filter.join, Filter.document, documents_eq]⟩
  | or => exact ⟨"$or", .inr rfl, by rw [Filter.join, Filter.document, documents_eq]⟩

/-- The document of a rule that passes its check is a query of its fields. -/
theorem lower_query {IsField : String → Prop} (hc : rule.check limits = .ok ())
    (hf : ∀ c ∈ rule.comparisons, isFieldName c.field = true → IsField c.field)
    (h : rule.lower limits = .ok filter) : Query IsField filter.document := by
  induction rule generalizing filter with
  | comparison c =>
    obtain ⟨op, clause, hc, hv, rfl⟩ := lower_comparison_iff.1 h
    obtain ⟨hn, -, -, hs⟩ := Comparison.check_ok_iff.1 hc
    have hfield : IsField c.field := hf c (List.mem_singleton.2 rfl) hn
    exact .field hfield (Clause.ofValue_term hs hv)
  | group condition rules ih =>
    obtain ⟨hne, hr⟩ := check_group_ok_iff.1 hc
    obtain ⟨filters, hfs, rfl⟩ := lower_group_iff.1 h
    obtain ⟨key, hk, hd⟩ := join_document condition filters
    rw [hd]
    refine .group hk ?_ fun document hm => ?_
    · have hlen : rules.length = filters.length := hfs.length_eq
      intro he
      rw [List.map_eq_nil_iff] at he
      subst he
      exact hne (List.eq_nil_of_length_eq_zero hlen)
    · obtain ⟨f, hfm, rfl⟩ := List.mem_map.1 hm
      obtain ⟨r, hrm, hrf⟩ := exists_of_mem_right hfs hfm
      refine ih r hrm (hr r hrm) (fun c hc => ?_) hrf
      exact hf c (mem_comparisons_group.2 ⟨r, hrm, hc⟩)

/-- **Nothing is injected into a query**: what has been read as a rule and compiled gives a
    query of the closed form, all keys of which are keywords or fields that have been read, and
    it stays the same whatever objects stand in the values of the rule. -/
theorem compile_document_query {node : Json} (hn : ofJson node = .ok (some rule))
    (h : rule.compile limits = .ok filter) :
    Query (Query.FieldOf node) filter.document ∧
    (∀ ms, Json.Inside (.object ms) filter.document →
      ∃ key value, ms = [(key, value)] ∧ (key ∈ Query.keywords ∨ Query.FieldOf node key)) ∧
    ∀ rule', Rel Comparison.SameButObjects rule rule' → rule'.compile limits = .ok filter := by
  obtain ⟨hv, hl⟩ := compile_ok_iff.1 h
  have hc : rule.check limits = .ok () := (validate_ok_iff.1 hv).2
  have hread : (readNode node).result = .ok rule := readNode_of_ofJson hn
  have hq : Query (Query.FieldOf node) filter.document :=
    lower_query hc (fun c hm hf => Query.fieldOf hread hm hf) hl
  refine ⟨hq, fun ms hi => hq.inside hi, fun rule' hr => ?_⟩
  exact (alike_of_sameButObjects hc hr).compile h

/-- Code in a value that is not looked at. -/
theorem compile_document_query_code : ∃ node rule filter,
    node = .object [("condition", .string "OR"), ("rules", .array [
      .object [("field", .string "role"), ("operator", .string "is_null"),
        ("value", .object [("$where", .string "sleep(1000)")])],
      .object [("field", .string "tags"), ("operator", .string "in"),
        ("value", .array [.string "$ne", .string "$gt"])]])] ∧
    ofJson node = .ok (some rule) ∧ rule.compile .default = .ok filter ∧
    Query (Query.FieldOf node) filter.document ∧
    ∀ code, ¬ Json.Inside (.object [("$where", code)]) filter.document := by
  have hn : ofJson (.object [("condition", .string "OR"), ("rules", .array [
      .object [("field", .string "role"), ("operator", .string "is_null"),
        ("value", .object [("$where", .string "sleep(1000)")])],
      .object [("field", .string "tags"), ("operator", .string "in"),
        ("value", .array [.string "$ne", .string "$gt"])]])]) = .ok (some (.group .or [
      .comparison ⟨"role", "is_null", .object [("$where", .string "sleep(1000)")]⟩,
      .comparison ⟨"tags", "in", .array [.string "$ne", .string "$gt"]⟩])) := rfl
  have h : (Rule.group .or [
      .comparison ⟨"role", "is_null", .object [("$where", .string "sleep(1000)")]⟩,
      .comparison ⟨"tags", "in", .array [.string "$ne", .string "$gt"]⟩]).compile .default =
      .ok (.or [
        .field "role" (.eq .null),
        .field "tags" (.isIn [.string "$ne", .string "$gt"])]) := rfl
  obtain ⟨hq, hi, -⟩ := compile_document_query hn h
  refine ⟨_, _, _, rfl, hn, h, hq, fun code hc => ?_⟩
  obtain ⟨key, value, he, hk | hk⟩ := hi _ hc
  · cases he
    exact absurd hk (by decide)
  · cases he
    exact hk.noDollar (by decide)

end Rule

end FilterRules
