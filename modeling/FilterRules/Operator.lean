/-
  FilterRules — comparison operators.

  An operator is known by its name, asks for a value of a certain shape, and may
  be the negation of another one.

  * `Operator` in the order of the registry, which is `Operator.all`;
  * `name` and `ofName?` go between operators and names, `ofName_name` being the
    law that joins them;
  * `Shape` is what a value has to be, and `shape` what an operator asks for;
  * `negated?` is the operator that a negation negates;
  * `isEnabled` tells whether the registry has an operator switched on.
-/

namespace FilterRules

/-! ## Shapes -/

/-- What an operator asks of its value. -/
inductive Shape where
  /-- A single number, boolean or string. -/
  | scalar
  /-- A list of scalars of one kind. -/
  | scalars
  /-- A number. -/
  | number
  /-- A string that is a date and time. -/
  | datetime
  /-- A string with at least one character. -/
  | text
  /-- Anything: the value is not used. -/
  | ignored
  deriving DecidableEq, Repr

/-- What a shape is called in messages. -/
def Shape.describe : Shape → String
  | .scalar => "a number, boolean or string value"
  | .scalars => "an array of numbers, booleans or strings of one type"
  | .number => "a numeric value"
  | .datetime => "an RFC-3339 datetime string"
  | .text => "a non-empty string"
  | .ignored => "no value"

/-! ## Operators -/

/-- A comparison operator. -/
inductive Operator where
  | equal
  | notEqual
  | isIn
  | notIn
  | less
  | lessOrEqual
  | greater
  | greaterOrEqual
  | datetimeLess
  | datetimeLessOrEqual
  | datetimeGreater
  | datetimeGreaterOrEqual
  | beginsWith
  | notBeginsWith
  | contains
  | notContains
  | endsWith
  | notEndsWith
  | isEmpty
  | isNotEmpty
  | isNull
  | isNotNull
  | exist
  | notExist
  deriving DecidableEq, Repr

namespace Operator

/-- All operators, in the order of the registry. -/
def all : List Operator :=
  [.equal, .notEqual, .isIn, .notIn, .less, .lessOrEqual, .greater, .greaterOrEqual,
   .datetimeLess, .datetimeLessOrEqual, .datetimeGreater, .datetimeGreaterOrEqual,
   .beginsWith, .notBeginsWith, .contains, .notContains, .endsWith, .notEndsWith,
   .isEmpty, .isNotEmpty, .isNull, .isNotNull, .exist, .notExist]

/-- The name of an operator in a rule. -/
def name : Operator → String
  | .equal => "equal"
  | .notEqual => "not_equal"
  | .isIn => "in"
  | .notIn => "not_in"
  | .less => "less"
  | .lessOrEqual => "less_or_equal"
  | .greater => "greater"
  | .greaterOrEqual => "greater_or_equal"
  | .datetimeLess => "datetime_less"
  | .datetimeLessOrEqual => "datetime_less_or_equal"
  | .datetimeGreater => "datetime_greater"
  | .datetimeGreaterOrEqual => "datetime_greater_or_equal"
  | .beginsWith => "begins_with"
  | .notBeginsWith => "not_begins_with"
  | .contains => "contains"
  | .notContains => "not_contains"
  | .endsWith => "ends_with"
  | .notEndsWith => "not_ends_with"
  | .isEmpty => "is_empty"
  | .isNotEmpty => "is_not_empty"
  | .isNull => "is_null"
  | .isNotNull => "is_not_null"
  | .exist => "exist"
  | .notExist => "not_exist"

/-- The operator of a name. -/
def ofName? (name : String) : Option Operator := all.find? fun op => op.name == name

theorem ofName_name (op : Operator) : ofName? op.name = some op := by cases op <;> decide

/-- The place of an operator in the registry. -/
def index (op : Operator) : Nat := all.idxOf op

/-- What an operator asks of its value. -/
def shape : Operator → Shape
  | .equal | .notEqual => .scalar
  | .isIn | .notIn => .scalars
  | .less | .lessOrEqual | .greater | .greaterOrEqual => .number
  | .datetimeLess | .datetimeLessOrEqual | .datetimeGreater | .datetimeGreaterOrEqual => .datetime
  | .beginsWith | .notBeginsWith | .contains | .notContains | .endsWith | .notEndsWith => .text
  | .isEmpty | .isNotEmpty | .isNull | .isNotNull | .exist | .notExist => .ignored

/-- Whether the registry has an operator switched on; at present every one is. -/
def isEnabled : Operator → Bool := fun _ => true

/-- The operator that a negation negates. -/
def negated? : Operator → Option Operator
  | .notEqual => some .equal
  | .notIn => some .isIn
  | .notBeginsWith => some .beginsWith
  | .notContains => some .contains
  | .notEndsWith => some .endsWith
  | .isNotEmpty => some .isEmpty
  | .isNotNull => some .isNull
  | .notExist => some .exist
  | _ => none

/-- Whether an operator orders dates and times. -/
def isDatetime (op : Operator) : Bool := op.shape == .datetime

/-- Whether an operator looks for a piece of text. -/
def isText (op : Operator) : Bool := op.shape == .text

end Operator

end FilterRules
