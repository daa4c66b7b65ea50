/-
  FilterRules — what can be wrong with a rule, and where.

  An error has a cause and the path of the place in the rule that has it, such as
  `rules[1].rules[0].value`; the path of the rule itself is empty.

  * `Expected` is what should have stood in place of something of the wrong
    type, `RuleError.Cause` what can be wrong, `Cause.message` its wording;
  * `RuleError` joins cause and path; `within` puts the path of an enclosing
    place in front.
-/
import FilterRules.Operator

namespace FilterRules

/-- What should have stood in a place of a rule. -/
inductive Expected where
  | rule
  | condition
  | rules
  | field
  | operator
  | value (shape : Shape)
  deriving DecidableEq, Repr

/-- How the message names what should have stood there. -/
def Expected.describe : Expected → String
  | .rule => "a rule object"
  | .condition => "a condition string"
  | .rules => "an array of rules"
  | .field => "a field name string"
  | .operator => "an operator name string"
  | .value shape => shape.describe

/-- What is wrong with a rule. -/
inductive RuleError.Cause where
  /-- Neither a group nor a comparison. -/
  | noFilter
  /-- Something of the wrong type. -/
  | malformed (expected : Expected)
  /-- A condition other than `AND` and `OR`. -/
  | unknownCondition (name : String)
  /-- A group without rules. -/
  | emptyGroup
  /-- A field name outside the pattern of field names. -/
  | invalidField (field : String)
  /-- An operator that the registry does not have. -/
  | unknownOperator (name : String)
  /-- An operator that may not be used. -/
  | disabledOperator (operator : Operator)
  /-- A value without the shape that its operator asks for. -/
  | invalidValue (operator : Operator)
  /-- A string that is not a date and time. -/
  | invalidDatetime (value reason : String)
  /-- A tree with more levels than allowed. -/
  | tooDeep (depth max : Nat)
  /-- A text that is not JSON. -/
  | invalidJson (reason : String)
  deriving DecidableEq, Repr

/-- The wording of a cause. -/
def RuleError.Cause.message : RuleError.Cause → String
  | .noFilter => "no filter found: expected a `condition` or `operator` key"
  | .malformed expected => "malformed rule: expected " ++ expected.describe
  | .unknownCondition name => "unsupported condition '" ++ name ++ "'"
  | .emptyGroup => "combined rule must contain at least one rule"
  | .invalidField field => "invalid field name '" ++ field ++ "'"
  | .unknownOperator name => "unsupported operator '" ++ name ++ "'"
  | .disabledOperator operator => "operator '" ++ operator.name ++ "' is disabled"
  | .invalidValue operator =>
    "operator '" ++ operator.name ++ "' requires " ++ operator.shape.describe
  | .invalidDatetime value reason => "invalid RFC-3339 datetime '" ++ value ++ "': " ++ reason
  | .tooDeep depth max =>
    "rule depth " ++ toString depth ++ " exceeds the maximum of " ++ toString max
  | .invalidJson reason => "invalid JSON: " ++ reason

/-- A cause with the path of the place that has it. -/
structure RuleError where
  path : String
  cause : RuleError.Cause
  deriving DecidableEq, Repr

namespace RuleError

/-- The error of the rule itself. -/
def atRoot (cause : Cause) : RuleError := ⟨"", cause⟩

/-- The error seen from an enclosing place, in which it is found by `segment`. -/
def within (segment : String) (e : RuleError) : RuleError :=
  ⟨if e.path = "" then segment else segment ++ "." ++ e.path, e.cause⟩

/-- The segment of the child of a group with a given index. -/
def childSegment (index : Nat) : String := "rules[" ++ toString index ++ "]"

/-- The error of a child seen from its group. -/
def withinChild (index : Nat) (e : RuleError) : RuleError := e.within (childSegment index)

/-- The message: the path, unless it is empty, and the cause. -/
def message (e : RuleError) : String :=
  if e.path = "" then e.cause.message else e.path ++ ": " ++ e.cause.message

end RuleError

end FilterRules
