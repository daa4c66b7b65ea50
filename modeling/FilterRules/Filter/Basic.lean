/-
  FilterRules — filters of a document store.

  A filter is a tree: its leaves are clauses on one field, its inner nodes join
  filters.

  * `Bound`, `Clause` and `Filter`;
  * `document` is the query that the store understands: `$and` and `$or` with the
    list of documents joined, and for a clause the field with an object of one key
    (`Clause.key`) and its operand.  A date stands in an object of its own, under
    `$date`, in UTC and to the millisecond.
-/
import FilterRules.Calendar.Rfc3339
import FilterRules.Json.Basic

namespace FilterRules

/-- What a field is ordered against. -/
inductive Bound where
  | number (n : Json.Number)
  | datetime (t : Instant)
  deriving DecidableEq

/-- What a filter asks of one field. -/
inductive Clause where
  | eq (value : Json)
  | ne (value : Json)
  | isIn (values : List Json)
  | notIn (values : List Json)
  | lt (bound : Bound)
  | lte (bound : Bound)
  | gt (bound : Bound)
  | gte (bound : Bound)
  /-- The field matches a pattern. -/
  | regex (pattern : String)
  /-- The field does not match a pattern. -/
  | notRegex (pattern : String)
  /-- The field is there, or is not. -/
  | present (expected : Bool)
  deriving DecidableEq

/-- A filter. -/
inductive Filter where
  /-- Every one of the filters. -/
  | and (filters : List Filter)
  /-- One of the filters at least. -/
  | or (filters : List Filter)
  /-- A clause on a field. -/
  | field (name : String) (clause : Clause)

/-! ## Documents -/

/-- The object with one member. -/
def Json.single (key : String) (value : Json) : Json := .object [(key, value)]

/-- A bound in a document. -/
def Bound.document : Bound → Json
  | .number n => .number n
  | .datetime t => Json.single "$date" (.string (Rfc3339.render t))

namespace Clause

/-- The key of a clause in a document. -/
def key : Clause → String
  | .eq _ => "$eq"
  | .ne _ => "$ne"
  | .isIn _ => "$in"
  | .notIn _ => "$nin"
  | .lt _ => "$lt"
  | .lte _ => "$lte"
  | .gt _ => "$gt"
  | .gte _ => "$gte"
  | .regex _ => "$regex"
  | .notRegex _ => "$not"
  | .present _ => "$exists"

/-- The operand of a clause in a document. -/
def operand : Clause → Json
  | .eq value | .ne value => value
  | .isIn values | .notIn values => .array values
  | .lt bound | .lte bound | .gt bound | .gte bound => bound.document
  | .regex pattern => .string pattern
  | .notRegex pattern => Json.single "$regex" (.string pattern)
  | .present expected => .bool expected

/-- A clause in a document. -/
def document (clause : Clause) : Json := Json.single clause.key clause.operand

end Clause

namespace Filter

mutual

/-- The document of a filter. -/
def document : Filter → Json
  | .and filters => Json.single "$and" (.array (documents filters))
  | .or filters => Json.single "$or" (.array (documents filters))
  | .field name clause => Json.single name clause.document

/-- The documents of some filters. -/
def documents : List Filter → List Json
  | [] => []
  | filter :: filters => filter.document :: documents filters

end

end Filter

end FilterRules
