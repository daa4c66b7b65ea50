/-
  FilterRules — validating rules.

  A rule is valid under some limits if it has not too many levels, no group is
  empty, and every comparison has a field name, an operator that may be used and
  a value of the shape that the operator asks for.

  * `isFieldName` tells whether a string is a field name: it starts with a letter of
    the Latin alphabet, and word characters, hyphens and dots may follow;
  * `checkValue` compares a value with the shape of an operator;
  * `Comparison.check` and `Rule.check` go through a comparison and a rule and
    give the first error, in the order in which a rule is written;
  * `Rule.validateLogged` looks at the depth first, and `Rule.validate` is what it
    gives.
-/
import FilterRules.Calendar.Rfc3339
import FilterRules.Limits.Basic
import FilterRules.Log
import FilterRules.Rule.Basic
import FilterRules.Text.Word

namespace FilterRules

/-! ## Field names -/

/-- Whether a character may stand in a field name behind the first one. -/
def isFieldChar (c : Char) : Bool := Text.isWord c || c == '-' || c == '.'

/-- Whether a string is a field name. -/
def isFieldName (name : String) : Bool :=
  match name.toList with
  | [] => false
  | c :: rest => c.isAlpha && rest.all isFieldChar

/-! ## Values -/

/-- The kinds of scalars. -/
inductive ScalarKind where
  | number
  | bool
  | string
  deriving DecidableEq, Repr

/-- The kind of a value that is a scalar; `null` is none. -/
def Json.scalarKind? : Json → Option ScalarKind
  | .number _ => some .number
  | .bool _ => some .bool
  | .string _ => some .string
  | .null | .array _ | .object _ => none

/-- Whether some values are all scalars of one kind. -/
def Json.areScalars : List Json → Bool
  | [] => true
  | item :: items =>
    match item.scalarKind? with
    | none => false
    | some kind => items.all fun other => other.scalarKind? == some kind

/-- Checks that a value has the shape that an operator asks for. -/
def checkValue (operator : Operator) (value : Json) : Except RuleError.Cause Unit :=
  match operator.shape, value with
  | .scalar, value =>
    if value.scalarKind?.isSome then .ok () else .error (.invalidValue operator)
  | .scalars, .array items =>
    if Json.areScalars items then .ok () else .error (.invalidValue operator)
  | .number, .number _ => .ok ()
  | .datetime, .string text =>
    match Rfc3339.read text with
    | .ok _ => .ok ()
    | .error fault => .error (.invalidDatetime text fault.message)
  | .text, .string text => if text ≠ "" then .ok () else .error (.invalidValue operator)
  | .ignored, _ => .ok ()
  | _, _ => .error (.invalidValue operator)

/-! ## Rules -/

/-- Checks field, operator and value of a comparison, in this order, and gives
    the operator. -/
def Comparison.check (limits : Limits) (c : Comparison) : Except RuleError Operator :=
  if !isFieldName c.field then .error ⟨"field", .invalidField c.field⟩
  else
    match c.operator? with
    | none => .error ⟨"operator", .unknownOperator c.operatorName⟩
    | some operator =>
      if !limits.allows operator then .error ⟨"operator", .disabledOperator operator⟩
      else
        match checkValue operator c.value with
        | .ok () => .ok operator
        | .error cause => .error ⟨"value", cause⟩

namespace Rule

mutual

/-- Checks every node of a rule, a group before its children. -/
def check (limits : Limits) : Rule → Except RuleError Unit
  | .comparison c => (c.check limits).map fun _ => ()
  | .group _ [] => .error ⟨"rules", .emptyGroup⟩
  | .group _ (rule :: rules) => checkList limits 0 (rule :: rules)

/-- Checks the children of a group from the one with a given index on. -/
def checkList (limits : Limits) (index : Nat) : List Rule → Except RuleError Unit
  | [] => .ok ()
  | rule :: rules =>
    match rule.check limits with
    | .ok () => checkList limits (index + 1) rules
    | .error e => .error (e.withinChild index)

end

/-- Checks the depth of a rule and then its nodes, and reports a failure. -/
def validateLogged (limits : Limits) (rule : Rule) : Logged Unit :=
  Logged.reporting .validationFailed <| Logged.ofExcept <|
    if limits.maxDepth < rule.depth then .error (.atRoot (.tooDeep rule.depth limits.maxDepth))
    else rule.check limits

/-- Whether a rule keeps the limits, or the first error if it does not. -/
def validate (limits : Limits) (rule : Rule) : Except RuleError Unit :=
  (rule.validateLogged limits).result

end Rule

end FilterRules
