/-
  FilterRules — numbers in rules and filters.

  Compiling does not look at numbers: they go from the rule into the filter as
  they are.

  * `Json.mapNumbers`, `Rule.mapNumbers` and `Filter.mapNumbers` put other numbers
    in place of those of a value, of the values of a rule and of a filter;
  * `checkValue_mapNumbers` and `Clause.ofValue_mapNumbers`: a value is checked
    and lowered whatever its numbers are;
  * `compile_mapNumbers`: a rule with other numbers compiles to its filter with
    those numbers.
-/
import FilterRules.Proofs.Filter.Lowering

namespace FilterRules

variable (g : Json.Number → Json.Number)

/-! ## Other numbers -/

namespace Json

mutual

/-- A value with other numbers. -/
def mapNumbers : Json → Json
  | .number n => .number (g n)
  | .array items => .array (mapNumbersItems items)
  | .object ms => .object (mapNumbersMembers ms)
  | .null => .null
  | .bool b => .bool b
  | .string s => .string s

/-- Some items with other numbers. -/
def mapNumbersItems : List Json → List Json
  | [] => []
  | item :: items => item.mapNumbers :: mapNumbersItems items

/-- Some members with other numbers. -/
def mapNumbersMembers : List (String × Json) → List (String × Json)
  | [] => []
  | (key, value) :: ms => (key, value.mapNumbers) :: mapNumbersMembers ms

end

theorem mapNumbers_array (items : List Json) :
    (array items).mapNumbers g = .array (items.map (mapNumbers g)) := by
  rw [mapNumbers]
  congr 1
  induction items with
  | nil => rfl
  | cons item items ih => rw [mapNumbersItems, ih, List.map_cons]

theorem scalarKind?_mapNumbers (value : Json) :
    (value.mapNumbers g).scalarKind? = value.scalarKind? := by
  cases value <;> rfl

theorem areScalars_mapNumbers (items : List Json) :
    areScalars (items.map (mapNumbers g)) = areScalars items := by
  cases items with
  | nil => rfl
  | cons item items =>
    rw [List.map_cons, areScalars, areScalars, scalarKind?_mapNumbers]
    simp only [List.all_map, Function.comp_def, scalarKind?_mapNumbers]

end Json

/-- A comparison with other numbers in its value. -/
def Comparison.mapNumbers (c : Comparison) : Comparison :=
  { c with value := c.value.mapNumbers g }

namespace Rule

mutual

/-- A rule with other numbers in its values. -/
def mapNumbers : Rule → Rule
  | .comparison c => .comparison (c.mapNumbers g)
  | .group condition rules => .group condition (mapNumbersList rules)

/-- Some rules with other numbers in their values. -/
def mapNumbersList : List Rule → List Rule
  | [] => []
  | rule :: rules => rule.mapNumbers :: mapNumbersList rules

end

theorem mapNumbers_group (condition : Condition) (rules : List Rule) :
    (group condition rules).mapNumbers g = .group condition (rules.map (mapNumbers g)) := by
  rw [mapNumbers]
  congr 1
  induction rules with
  | nil => rfl
  | cons r rules ih => rw [mapNumbersList, ih, List.map_cons]

end Rule

/-- A bound with another number. -/
def Bound.mapNumbers : Bound → Bound
  | .number n => .number (g n)
  | .datetime t => .datetime t

/-- A clause with other numbers. -/
def Clause.mapNumbers : Clause → Clause
  | .eq value => .eq (value.mapNumbers g)
  | .ne value => .ne (value.mapNumbers g)
  | .isIn values => .isIn (values.map (Json.mapNumbers g))
  | .notIn values => .notIn (values.map (Json.mapNumbers g))
  | .lt bound => .lt (bound.mapNumbers g)
  | .lte bound => .lte (bound.mapNumbers g)
  | .gt bound => .gt (bound.mapNumbers g)
  | .gte bound => .gte (bound.mapNumbers g)
  | .regex pattern => .regex pattern
  | .notRegex pattern => .notRegex pattern
  | .present expected => .present expected

namespace Filter

mutual

/-- A filter with other numbers. -/
def mapNumbers : Filter → Filter
  | .and filters => .and (mapNumbersList filters)
  | .or filters => .or (mapNumbersList filters)
  | .field name clause => .field name (clause.mapNumbers g)

/-- Some filters with other numbers. -/
def mapNumbersList : List Filter → List Filter
  | [] => []
  | filter :: filters => filter.mapNumbers :: mapNumbersList filters

end

theorem mapNumbers_join (condition : Condition) (filters : List Filter) :
    (join condition filters).mapNumbers g = join condition (filters.map (mapNumbers g)) := by
  have h : mapNumbersList g filters = filters.map (mapNumbers g) := by
    induction filters with
    | nil => rfl
    | cons f filters ih => rw [mapNumbersList, ih, List.map_cons]
  cases condition <;> rw [join, mapNumbers, h, join]

end Filter

/-! ## Values -/

theorem checkValue_mapNumbers (op : Operator) (value : Json) :
    checkValue op (value.mapNumbers g) = checkValue op value := by
  unfold checkValue
  cases op.shape with
  | scalar => simp only [Json.scalarKind?_mapNumbers]
  | scalars =>
    cases value with
    | array items => simp only [Json.mapNumbers_array, Json.areScalars_mapNumbers]
    | _ => rfl
  | number | datetime | text | ignored => cases value <;> rfl

theorem Clause.ofValue_mapNumbers (op : Operator) (value : Json) :
    ofValue op (value.mapNumbers g) = (ofValue op value).map (mapNumbers g) := by
  cases op with
  | equal | notEqual | isNull | isNotNull | isEmpty | isNotEmpty | exist | notExist => rfl
  | isIn | notIn =>
    cases value with
    | array items =>
      rw [Json.mapNumbers_array]
      rfl
    | _ => rfl
  | less | lessOrEqual | greater | greaterOrEqual => cases value <;> rfl
  | datetimeLess | datetimeLessOrEqual | datetimeGreater | datetimeGreaterOrEqual =>
    cases value with
    | string text =>
      simp only [Json.mapNumbers, ofValue, datetimeOperand]
      cases Rfc3339.read text <;> rfl
    | _ => rfl
  | beginsWith | notBeginsWith | contains | notContains | endsWith | notEndsWith =>
    cases value with
    | string text =>
      simp only [Json.mapNumbers, ofValue, textOperand]
      split <;> rfl
    | _ => rfl

/-! ## Rules -/

theorem Comparison.check_mapNumbers (limits : Limits) (c : Comparison) :
    (c.mapNumbers g).check limits = c.check limits := by
  have ho : (c.mapNumbers g).operator? = c.operator? := rfl
  simp only [check, ho]
  simp only [mapNumbers, checkValue_mapNumbers]

namespace Rule

variable (limits : Limits) (rule : Rule)

theorem check_mapNumbers : (rule.mapNumbers g).check limits = rule.check limits := by
  induction rule with
  | comparison c => rw [mapNumbers, check, check, Comparison.check_mapNumbers]
  | group condition rules ih =>
    rw [mapNumbers_group]
    cases rules with
    | nil => rfl
    | cons r rules =>
      have hr : ∀ s ∈ r :: rules, (s.mapNumbers g).check limits = (s.check limits).map id :=
        fun s hs => by rw [ih s hs, Except.map_id, id]
      rw [List.map_cons, check, check, ← List.map_cons, checkList_eq, checkList_eq,
        Preorder.collect_map hr]
      cases Preorder.collect (check limits) 0 (r :: rules) <;> rfl

theorem lower_mapNumbers :
    (rule.mapNumbers g).lower limits = (rule.lower limits).map (Filter.mapNumbers g) := by
  induction rule with
  | comparison c =>
    rw [mapNumbers, lower, lower, Comparison.lower, Comparison.lower, Comparison.check_mapNumbers]
    cases c.check limits with
    | error e => rfl
    | ok op =>
      simp only [Comparison.mapNumbers, Clause.ofValue_mapNumbers]
      cases Clause.ofValue op c.value <;> rfl
  | group condition rules ih =>
    rw [mapNumbers_group, lower, lower, lowerList_eq, lowerList_eq, Preorder.collect_map ih]
    cases Preorder.collect (lower limits) 0 rules with
    | error e => rfl
    | ok filters => simp only [Except.map, Filter.mapNumbers_join]

theorem depth_mapNumbers : (rule.mapNumbers g).depth = rule.depth := by
  induction rule with
  | comparison c => rfl
  | group condition rules ih =>
    have hd : List.Forall₂ (fun r r' : Rule => r.depth = r'.depth)
        (rules.map (mapNumbers g)) rules :=
      List.forall₂_map_left_iff.2 (List.forall₂_same.2 ih)
    rw [mapNumbers_group, depth, depth, depths_congr hd]

/-- **Compiling does not look at numbers**: it puts those of the rule into the filter. -/
theorem compile_mapNumbers :
    (rule.mapNumbers g).compile limits = (rule.compile limits).map (Filter.mapNumbers g) := by
  rw [compile_eq, compile_eq, validate_eq, validate_eq, depth_mapNumbers, check_mapNumbers,
    lower_mapNumbers]
  split
  · rfl
  · cases rule.check limits <;> rfl

end Rule

end FilterRules
