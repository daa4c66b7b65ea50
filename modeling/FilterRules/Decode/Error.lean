/-
  FilterRules — why data cannot be decoded.

  Decoding expects data of a certain form.  It fails with what it has found and
  what it has expected, or with what is wrong with a rule or a text inside.

  * `Found` names what has been found, and `Json.found` what a value is;
  * `DecodeError` and its wording.
-/
import FilterRules.Json.Basic
import FilterRules.Json.Fault
import FilterRules.Rule.Error
import FilterRules.Text.Quoted

namespace FilterRules

/-! ## What is found -/

/-- What has been found where something else was expected. -/
inductive Found where
  | null
  | bool (b : Bool)
  | number (n : Json.Number)
  | string (s : String)
  | sequence
  | map
  deriving DecidableEq

/-- How a message names what has been found. -/
def Found.describe : Found → String
  | .null => "null"
  | .bool true => "boolean `true`"
  | .bool false => "boolean `false`"
  | .number (.integer n h) => "integer `" ++ String.ofList (Json.Number.integer n h).render ++ "`"
  | .number (.float x h) =>
    "floating point `" ++ String.ofList (Json.Number.float x h).render ++ "`"
  | .string s => "string " ++ Text.quoted s
  | .sequence => "sequence"
  | .map => "map"

/-- What a value is when it is not what was expected. -/
def Json.found : Json → Found
  | .null => .null
  | .bool b => .bool b
  | .number n => .number n
  | .string s => .string s
  | .array _ => .sequence
  | .object _ => .map

/-! ## Errors -/

/-- Why data cannot be decoded. -/
inductive DecodeError where
  /-- The text is not JSON. -/
  | text (cause : Json.Cause)
  /-- The rule inside is wrong. -/
  | rule (error : RuleError)
  /-- Something of the wrong type. -/
  | wrongType (found : Found) (expected : String)
  /-- Something of the right type with a value that does not fit. -/
  | wrongValue (found : Found) (expected : String)
  /-- A list with too few or too many items. -/
  | wrongLength (length : Nat) (expected : String)
  | missingKey (key : String)
  | repeatedKey (key : String)
  /-- A name that is none of the operators. -/
  | unknownOperator (name : String)
  deriving DecidableEq

/-- The names of all operators, as a message lists them. -/
def operatorList : String :=
  ", ".intercalate (Operator.all.map fun op => "`" ++ op.name ++ "`")

/-- The wording of an error. -/
def DecodeError.message : DecodeError → String
  | .text cause => cause.message
  | .rule e => e.message
  | .wrongType found expected => "invalid type: " ++ found.describe ++ ", expected " ++ expected
  | .wrongValue found expected => "invalid value: " ++ found.describe ++ ", expected " ++ expected
  | .wrongLength length expected =>
    "invalid length " ++ toString length ++ ", expected " ++ expected
  | .missingKey key => "missing field `" ++ key ++ "`"
  | .repeatedKey key => "duplicate field `" ++ key ++ "`"
  | .unknownOperator name => "unknown variant `" ++ name ++ "`, expected one of " ++ operatorList

end FilterRules
