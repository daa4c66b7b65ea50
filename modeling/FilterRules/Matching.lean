/-
  FilterRules — matching records in memory.

  * `Operator.holds` is the test of an operator that is no negation.  A list
    answers by its items, one of which has to pass;
  * `Comparison.matchesValue` is the answer of a comparison to the value of a field.
    A negation is the exact opposite of what it negates; an unknown operator never
    holds;
  * `Rule.matchesRecord` puts a rule to a record, and `filter`, `count`, `any`, `all`
    and `find?` to several.
-/
import FilterRules.Record.Path
import FilterRules.Rule.Evaluation

namespace FilterRules

/-! ## Comparisons -/

/-- Whether a value passes a test, a list by one of its items. -/
def FieldValue.anyItem (test : FieldValue → Bool) : FieldValue → Bool
  | .array items => items.any test
  | value => test value

/-- Whether a value is the same scalar as a JSON value. -/
def FieldValue.equals (expected : Json) (value : FieldValue) : Bool :=
  match expected, value with
  | .string s, .string t => s == t
  | .bool a, .bool b => a == b
  | .number m, .number n => (Number.ofJson m).compare n == some .eq
  | _, _ => false

/-- Whether a text holds another one somewhere. -/
def holdsText (needle : List Char) : List Char → Bool
  | [] => needle.isEmpty
  | c :: rest => needle.isPrefixOf (c :: rest) || holdsText needle rest

namespace Operator

/-- Whether two things in a given order are as an ordering operator asks. -/
def accepts : Operator → Ordering → Bool
  | .less, o | .datetimeLess, o => o == .lt
  | .lessOrEqual, o | .datetimeLessOrEqual, o => o != .gt
  | .greater, o | .datetimeGreater, o => o == .gt
  | .greaterOrEqual, o | .datetimeGreaterOrEqual, o => o != .lt
  | _, _ => false

/-- Whether a number stands to a bound as an operator asks. -/
def acceptsNumber (op : Operator) (bound : Json.Number) (value : FieldValue) : Bool :=
  match value.number?.bind fun n => n.compare (Number.ofJson bound) with
  | some order => op.accepts order
  | none => false

/-- Whether a point in time stands to a bound as an operator asks. -/
def acceptsTimestamp (op : Operator) (bound : Timestamp) (value : FieldValue) : Bool :=
  match value.timestamp? with
  | some t => op.accepts (t.compare bound)
  | none => false

/-- Whether a text has another one where an operator asks for it. -/
def acceptsText (op : Operator) (needle : String) (value : FieldValue) : Bool :=
  match value.text? with
  | none => false
  | some s =>
    match op with
    | .beginsWith => needle.toList.isPrefixOf s.toList
    | .endsWith => needle.toList.isSuffixOf s.toList
    | .contains => holdsText needle.toList s.toList
    | _ => false

/-- Whether a field passes an operator that is no negation. -/
def holds (op : Operator) (expected : Json) (field : FieldValue) : Bool :=
  match op with
  | .equal => field.anyItem (·.equals expected)
  | .isIn =>
    match expected with
    | .array items => field.anyItem fun value => items.any fun item => value.equals item
    | _ => false
  | .less | .lessOrEqual | .greater | .greaterOrEqual =>
    match expected with
    | .number bound => field.anyItem (op.acceptsNumber bound)
    | _ => false
  | .datetimeLess | .datetimeLessOrEqual | .datetimeGreater | .datetimeGreaterOrEqual =>
    match expected with
    | .string text =>
      match Timestamp.ofText? text with
      | some bound => field.anyItem (op.acceptsTimestamp bound)
      | none => false
    | _ => false
  | .beginsWith | .contains | .endsWith =>
    match expected with
    | .string needle => field.anyItem (op.acceptsText needle)
    | _ => false
  | .isEmpty =>
    match field with
    | .array [] => true
    | _ => false
  | .isNull => field.isNull || field.isMissing
  | .exist => !field.isMissing
  | _ => false

end Operator

/-- Whether the value of a field is as a comparison asks. -/
def Comparison.matchesValue (c : Comparison) (field : FieldValue) : Bool :=
  match c.operator? with
  | none => false
  | some op =>
    match op.negated? with
    | some positive => !positive.holds c.value field
    | none => op.holds c.value field

/-! ## Records -/

namespace Rule

variable {α : Type}

/-- Whether a record is as a rule asks. -/
def matchesRecord (rule : Rule) (record : Record) : Bool :=
  rule.evaluate fun c => c.matchesValue (record c.field)

/-- The records that a rule matches, in their order. -/
def filter (rule : Rule) (record : α → Record) (records : List α) : List α :=
  records.filter fun r => rule.matchesRecord (record r)

/-- The number of records that a rule matches. -/
def count (rule : Rule) (record : α → Record) (records : List α) : Nat :=
  records.countP fun r => rule.matchesRecord (record r)

/-- Whether a rule matches one of the records. -/
def any (rule : Rule) (record : α → Record) (records : List α) : Bool :=
  records.any fun r => rule.matchesRecord (record r)

/-- Whether a rule matches all of the records. -/
def all (rule : Rule) (record : α → Record) (records : List α) : Bool :=
  records.all fun r => rule.matchesRecord (record r)

/-- The first record that a rule matches. -/
def find? (rule : Rule) (record : α → Record) (records : List α) : Option α :=
  records.find? fun r => rule.matchesRecord (record r)

end Rule

/-- Whether a record is as a rule asks, if there is a rule. -/
def recordMatches (rule : Option Rule) (record : Record) : Bool :=
  match rule with
  | none => true
  | some rule => rule.matchesRecord record

end FilterRules
