/-
  FilterRules — compiling rules to filters.

  A rule that is valid under some limits is turned into a filter of the same
  shape: groups into `and` and `or`, comparisons into clauses.

  * `Pattern.startingWith`, `Pattern.containing` and `Pattern.endingWith` are the
    patterns of the strings that begin with, contain and end with a text.  The
    characters that mean something in patterns (`Pattern.isSpecial`) have a backslash
    in front of them there; `^` and `$` bind a pattern to the start and the end;
  * `Clause.ofValue` is the clause of an operator and a value.  It does not rely
    on the value having been checked: it fails where the value cannot be used;
  * `Comparison.lower` and `Rule.lower` go through a comparison and a rule;
  * `Rule.compileLogged` validates and then lowers, and `Rule.compile` is what it
    gives.
-/
import FilterRules.Filter.Basic
import FilterRules.Rule.Validation

namespace FilterRules

/-! ## Patterns -/

namespace Pattern

/-- The characters that mean something in a pattern, or may in some form of
    patterns. -/
def special : List Char :=
  ['\\', '.', '+', '*', '?', '(', ')', '|', '[', ']', '{', '}', '^', '$', '#', '&', '-', '~']

/-- Whether a character means something in patterns. -/
def isSpecial (c : Char) : Bool := special.contains c

/-- The pattern of one character. -/
def escapeChar (c : Char) : List Char := if isSpecial c then ['\\', c] else [c]

/-- The pattern of a text. -/
def escape (text : String) : List Char := text.toList.flatMap escapeChar

/-- The pattern of the strings that begin with a text. -/
def startingWith (text : String) : String := String.ofList ('^' :: escape text)

/-- The pattern of the strings that contain a text. -/
def containing (text : String) : String := String.ofList (escape text)

/-- The pattern of the strings that end with a text. -/
def endingWith (text : String) : String := String.ofList (escape text ++ ['$'])

end Pattern

/-! ## Operands -/

/-- The items of a value that is a list. -/
def listOperand (operator : Operator) : Json → Except RuleError.Cause (List Json)
  | .array items => .ok items
  | _ => .error (.invalidValue operator)

/-- The bound of a value that is a number. -/
def numberOperand (operator : Operator) : Json → Except RuleError.Cause Bound
  | .number n => .ok (.number n)
  | _ => .error (.invalidValue operator)

/-- The bound of a value that is a date and time. -/
def datetimeOperand (operator : Operator) : Json → Except RuleError.Cause Bound
  | .string text =>
    match Rfc3339.read text with
    | .ok stamp => .ok (.datetime stamp.instant)
    | .error fault => .error (.invalidDatetime text fault.message)
  | _ => .error (.invalidValue operator)

/-- The text of a value that is a string and not empty. -/
def textOperand (operator : Operator) : Json → Except RuleError.Cause String
  | .string text => if text = "" then .error (.invalidValue operator) else .ok text
  | _ => .error (.invalidValue operator)

/-! ## Lowering -/

/-- The clause of an operator and a value. -/
def Clause.ofValue (operator : Operator) (value : Json) : Except RuleError.Cause Clause :=
  match operator with
  | .equal => .ok (.eq value)
  | .notEqual => .ok (.ne value)
  | .isIn => (listOperand operator value).map .isIn
  | .notIn => (listOperand operator value).map .notIn
  | .less => (numberOperand operator value).map .lt
  | .lessOrEqual => (numberOperand operator value).map .lte
  | .greater => (numberOperand operator value).map .gt
  | .greaterOrEqual => (numberOperand operator value).map .gte
  | .datetimeLess => (datetimeOperand operator value).map .lt
  | .datetimeLessOrEqual => (datetimeOperand operator value).map .lte
  | .datetimeGreater => (datetimeOperand operator value).map .gt
  | .datetimeGreaterOrEqual => (datetimeOperand operator value).map .gte
  | .beginsWith => (textOperand operator value).map (.regex ∘ Pattern.startingWith)
  | .notBeginsWith => (textOperand operator value).map (.notRegex ∘ Pattern.startingWith)
  | .contains => (textOperand operator value).map (.regex ∘ Pattern.containing)
  | .notContains => (textOperand operator value).map (.notRegex ∘ Pattern.containing)
  | .endsWith => (textOperand operator value).map (.regex ∘ Pattern.endingWith)
  | .notEndsWith => (textOperand operator value).map (.notRegex ∘ Pattern.endingWith)
  | .isEmpty => .ok (.eq (.array []))
  | .isNotEmpty => .ok (.ne (.array []))
  | .isNull => .ok (.eq .null)
  | .isNotNull => .ok (.ne .null)
  | .exist => .ok (.present true)
  | .notExist => .ok (.present false)

/-- The filter of a comparison, which is checked once more. -/
def Comparison.lower (limits : Limits) (c : Comparison) : Except RuleError Filter :=
  match c.check limits with
  | .error e => .error e
  | .ok operator =>
    match Clause.ofValue operator c.value with
    | .ok clause => .ok (.field c.field clause)
    | .error cause => .error ⟨"value", cause⟩

/-- The filter that joins filters as a condition does. -/
def Filter.join : Condition → List Filter → Filter
  | .and, filters => .and filters
  | .or, filters => .or filters

namespace Rule

mutual

/-- The filter of a rule. -/
def lower (limits : Limits) : Rule → Except RuleError Filter
  | .comparison c => c.lower limits
  | .group condition rules => (lowerList limits 0 rules).map (Filter.join condition)

/-- The filters of the children of a group from the one with a given index on. -/
def lowerList (limits : Limits) (index : Nat) : List Rule → Except RuleError (List Filter)
  | [] => .ok []
  | rule :: rules =>
    match rule.lower limits with
    | .ok filter => (lowerList limits (index + 1) rules).map (filter :: ·)
    | .error e => .error (e.withinChild index)

end

/-- Validates a rule and lowers it, and reports a failure of either. -/
def compileLogged (limits : Limits) (rule : Rule) : Logged Filter := do
  rule.validateLogged limits
  (Logged.ofExcept (rule.lower limits)).reporting .compilationFailed

/-- The filter of a rule that keeps the limits, or the first error. -/
def compile (limits : Limits) (rule : Rule) : Except RuleError Filter :=
  (rule.compileLogged limits).result

end Rule

end FilterRules
