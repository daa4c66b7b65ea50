/-
  FilterRules — the shape and the depth of compiled filters.

  A filter has a node for every node of the rule that it is compiled from, and its document is
  twice as deep as the rule, or one level deeper.

  * `Filter.at?` is the filter at an address, and `Filter.clauses` are the clauses of a filter
    from left to right, with their fields;
  * `Rule.Form` says that a node of a filter has the form of a node of a rule;
  * `Query.Term.nesting_le`: the operand of a clause is nested once at most;
  * `lower_clauses`, `lower_form` and `lower_nesting`: the fields of a filter, its nodes and the
    depth of its document, from the rule;
  * `compile_document_nesting` joins these.
-/
import FilterRules.Proofs.Filter.Document

namespace FilterRules

/-! ## Nodes of filters -/

namespace Filter

/-- The filters that a filter joins. -/
def parts : Filter → List Filter
  | .and filters | .or filters => filters
  | .field _ _ => []

/-- The filter at an address. -/
def at? (address : List Nat) (filter : Filter) : Option Filter :=
  Preorder.descend parts address filter

mutual

/-- The clauses of a filter with their fields, from left to right. -/
def clauses : Filter → List (String × Clause)
  | .and filters | .or filters => clausesList filters
  | .field name clause => [(name, clause)]

/-- The clauses of some filters, one filter after the other. -/
def clausesList : List Filter → List (String × Clause)
  | [] => []
  | filter :: filters => filter.clauses ++ clausesList filters

end

theorem at?_cons (index : Nat) (address : List Nat) (filter : Filter) :
    filter.at? (index :: address) = filter.parts[index]?.bind (at? address) := rfl

theorem parts_join (condition : Condition) (filters : List Filter) :
    (join condition filters).parts = filters := by
  cases condition <;> rfl

theorem clausesList_eq (filters : List Filter) : clausesList filters = filters.flatMap clauses := by
  induction filters with
  | nil => rfl
  | cons f filters ih => rw [clausesList, ih, List.flatMap_cons]

theorem clauses_join (condition : Condition) (filters : List Filter) :
    (join condition filters).clauses = filters.flatMap clauses := by
  cases condition <;> rw [join, clauses, clausesList_eq]

end Filter

/-- A node of a filter has the form of a node of a rule: it is a clause on the field of the
    comparison, or joins as many filters as the group has rules, as its condition does. -/
inductive Rule.Form : Rule → Filter → Prop
  | comparison {c clause} : Form (.comparison c) (.field c.field clause)
  | group {condition rules filters} : filters.length = rules.length →
      Form (.group condition rules) (.join condition filters)

/-! ## Nesting -/

namespace Json

theorem nesting_single (key : String) (value : Json) :
    (single key value).nesting = value.nesting + 1 := by
  simp [single, nesting, nestingMembers]

theorem nesting_scalar {value : Json} {kind : ScalarKind} (h : value.scalarKind? = some kind) :
    value.nesting = 0 := by
  cases value with
  | number | bool | string => rfl
  | null | array | object => cases h

theorem nestingItems_scalars {items : List Json} {kind : ScalarKind}
    (h : ∀ item ∈ items, item.scalarKind? = some kind) : nestingItems items = 0 := by
  induction items with
  | nil => rfl
  | cons item items ih =>
    obtain ⟨hi, his⟩ := List.forall_mem_cons.1 h
    rw [nestingItems, nesting_scalar hi, ih his, Nat.max_self]

end Json

/-- The operand of a clause is nested once at most: it is a scalar, a list of scalars, or a date
    or a pattern in an object of its own. -/
theorem Query.Term.nesting_le {key : String} {operand : Json} (h : Term key operand) :
    operand.nesting ≤ 1 := by
  cases h with
  | equality _ hv =>
    rcases hv with ⟨kind, hk⟩ | rfl | rfl
    · rw [Json.nesting_scalar hk]
      exact Nat.zero_le 1
    · exact Nat.zero_le 1
    · exact Nat.le_refl 1
  | membership _ hi => rw [Json.nesting, Json.nestingItems_scalars hi]
  | order _ hb =>
    rcases hb with ⟨n, rfl⟩ | ⟨text, rfl⟩
    · exact Nat.zero_le 1
    · exact Nat.le_of_eq (Json.nesting_single _ _)
  | pattern | presence => exact Nat.zero_le 1
  | noPattern => exact Nat.le_of_eq (Json.nesting_single _ _)

/-! ## Lowering -/

namespace Rule

variable {limits : Limits} {rule : Rule} {filter : Filter}

/-- Induction over lowering: a comparison becomes a clause on its field, and a group joins what
    its rules become. -/
theorem lower_induction {P : Rule → Filter → Prop}
    (comparison : ∀ c op clause, c.check limits = .ok op →
      Clause.ofValue op c.value = .ok clause → P (.comparison c) (.field c.field clause))
    (group : ∀ condition rules filters, List.Forall₂ P rules filters →
      P (.group condition rules) (.join condition filters))
    (h : rule.lower limits = .ok filter) : P rule filter := by
  induction rule generalizing filter with
  | comparison c =>
    obtain ⟨op, clause, hc, hv, rfl⟩ := lower_comparison_iff.1 h
    exact comparison c op clause hc hv
  | group condition rules ih =>
    obtain ⟨filters, hf, rfl⟩ := lower_group_iff.1 h
    have hp : ∀ r ∈ rules, ∀ f, r.lower limits = .ok f → P r f := fun r hr f hl => ih r hr hl
    exact group condition rules filters
      (((List.forall₂_and_left _ _).2 ⟨hp, hf⟩).imp fun r f h => h.1 f h.2)

/-! ### Depth -/

/-- The document of a filter is twice as deep as a rule, or one level deeper. -/
def TwiceAsDeep (rule : Rule) (filter : Filter) : Prop :=
  2 * rule.depth ≤ filter.document.nesting ∧ filter.document.nesting ≤ 2 * rule.depth + 1

/-- The deepest of some rules decides how deep the documents of their filters are. -/
theorem nestingItems_documents {rules : List Rule} {filters : List Filter}
    (h : List.Forall₂ TwiceAsDeep rules filters) :
    2 * depths rules ≤ Json.nestingItems (filters.map Filter.document) ∧
      Json.nestingItems (filters.map Filter.document) ≤ 2 * depths rules + 1 := by
  induction h with
  | nil => simp [depths, Json.nestingItems]
  | cons h _ ih =>
    rw [TwiceAsDeep] at h
    rw [depths, List.map_cons, Json.nestingItems]
    omega

/-- **The document of a filter is twice as deep as the rule, or one level deeper.** -/
theorem lower_nesting (h : rule.lower limits = .ok filter) : rule.TwiceAsDeep filter := by
  refine lower_induction (fun c op clause hc hv => ?_) (fun condition rules filters hf => ?_) h
  · obtain ⟨-, -, -, hs⟩ := Comparison.check_ok_iff.1 hc
    have hn : clause.operand.nesting ≤ 1 := (Clause.ofValue_term hs hv).nesting_le
    rw [TwiceAsDeep, depth, Filter.document, Clause.document, Json.nesting_single,
      Json.nesting_single]
    omega
  · -- the object and the list of a group are two levels
    obtain ⟨key, -, hd⟩ := join_document condition filters
    have hn := nestingItems_documents hf
    rw [TwiceAsDeep, hd, depth, Json.nesting_single, Json.nesting]
    omega

/-! ### Shape -/

/-- **The clauses of a filter are on the fields of the comparisons, in the same order.** -/
theorem lower_clauses (h : rule.lower limits = .ok filter) :
    filter.clauses.map Prod.fst = rule.comparisons.map Comparison.field := by
  refine lower_induction (P := fun r f => f.clauses.map Prod.fst = r.comparisons.map _)
    (fun c op clause _ _ => rfl) (fun condition rules filters hf => ?_) h
  rw [Filter.clauses_join, comparisons, comparisonsList_eq]
  induction hf with
  | nil => rfl
  | cons hr _ ih =>
    rw [List.flatMap_cons, List.flatMap_cons, List.map_append, List.map_append, hr, ih]

theorem forall₂_getElem? {α β : Type} {R : α → β → Prop} {as : List α} {bs : List β}
    (h : List.Forall₂ R as bs) (index : Nat) : Option.Rel R as[index]? bs[index]? := by
  induction h generalizing index with
  | nil => exact .none
  | cons hr _ ih =>
    cases index with
    | zero => exact .some hr
    | succ index => exact ih index

/-- **A filter has a node of the same form for every node of the rule**, and no others. -/
theorem lower_form (h : rule.lower limits = .ok filter) (address : List Nat) :
    Option.Rel Form (rule.at? address) (filter.at? address) := by
  refine lower_induction (P := fun r f => ∀ a, Option.Rel Form (r.at? a) (f.at? a))
    (fun c op clause _ _ a => ?_) (fun condition rules filters hf a => ?_) h address
  · cases a with
    | nil => exact .some .comparison
    | cons index a => exact .none
  · cases a with
    | nil => exact .some (.group hf.length_eq.symm)
    | cons index a =>
      have hi := forall₂_getElem? hf index
      rw [Filter.at?_cons, Filter.parts_join, at?, child?]
      generalize rules[index]? = r, filters[index]? = f at hi ⊢
      cases hi with
      | none => exact .none
      | some h => exact h a

/-! ## Compiling -/

/-- **The depth of a rule bounds that of the document**, and so do the limits.  The filter has
    one clause for each comparison, in the same order and on the same fields, and it joins as
    many filters wherever the rule has a group, as its condition does. -/
theorem compile_document_nesting (h : rule.compile limits = .ok filter) :
    (2 * rule.depth ≤ filter.document.nesting ∧ filter.document.nesting ≤ 2 * rule.depth + 1) ∧
    filter.document.nesting ≤ 2 * limits.maxDepth + 1 ∧
    filter.clauses.map Prod.fst = rule.comparisons.map Comparison.field ∧
    ∀ address, Option.Rel Form (rule.at? address) (filter.at? address) := by
  obtain ⟨hv, hl⟩ := compile_ok_iff.1 h
  have hd : rule.depth ≤ limits.maxDepth := (validate_ok_iff.1 hv).1
  obtain ⟨hlow, hhigh⟩ := lower_nesting hl
  exact ⟨⟨hlow, hhigh⟩, by omega, lower_clauses hl, lower_form hl⟩

/-- A rule in which a list stands above the deepest comparison, and one in which it stands in the
    deepest. -/
theorem compile_document_nesting_uneven : ∃ even odd f g,
    even = group .or [.comparison ⟨"tags", "not_in", .array [.string "a"]⟩,
      group .and [.comparison ⟨"name", "equal", .string "x"⟩]] ∧
    odd = group .and [.comparison ⟨"name", "exist", .null⟩,
      group .or [.comparison ⟨"tags", "is_empty", .null⟩]] ∧
    even.compile .default = .ok f ∧ odd.compile .default = .ok g ∧
    even.depth = 3 ∧ odd.depth = 3 ∧ f.document.nesting = 6 ∧ g.document.nesting = 7 ∧
    g.document.nesting ≤ 2 * Limits.default.maxDepth + 1 ∧
    f.clauses.map Prod.fst = ["tags", "name"] ∧ g.clauses.map Prod.fst = ["name", "tags"] := by
  have hf : (group .or [.comparison ⟨"tags", "not_in", .array [.string "a"]⟩,
      group .and [.comparison ⟨"name", "equal", .string "x"⟩]]).compile .default =
      .ok (.or [.field "tags" (.notIn [.string "a"]), .and [.field "name" (.eq (.string "x"))]]) :=
    rfl
  have hg : (group .and [.comparison ⟨"name", "exist", .null⟩,
      group .or [.comparison ⟨"tags", "is_empty", .null⟩]]).compile .default =
      .ok (.and [.field "name" (.present true), .or [.field "tags" (.eq (.array []))]]) := rfl
  obtain ⟨-, -, hfields, -⟩ := compile_document_nesting hf
  obtain ⟨-, hlimits, hfields', -⟩ := compile_document_nesting hg
  exact ⟨_, _, _, _, rfl, rfl, hf, hg, rfl, rfl, rfl, rfl, hlimits, hfields, hfields'⟩

end Rule

end FilterRules
