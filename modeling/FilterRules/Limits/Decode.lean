/-
  FilterRules — decoding limits.

  Limits are given as an object with the keys `max_depth` and
  `disabled_operators`, or as a list of these two; what is missing has its
  default.  An operator is given by its name, or by an object in which the name
  is the one key and its value null.

  * `Limits.toJson` writes limits;
  * `Limits.ofJson` decodes limits from a JSON value and `Limits.ofText` from a
    JSON text.
-/
import FilterRules.Decode.Fields
import FilterRules.Limits.Basic

namespace FilterRules.Limits

open Json (Scanned)

/-- Limits as JSON. -/
def toJson? (limits : Limits) : Option Json :=
  (Json.Number.ofInt? limits.maxDepth).map fun depth =>
    .object [("disabled_operators", .array (limits.disabled.map fun op => .string op.name)),
      ("max_depth", .number depth)]

/-! ## Parts from values -/

/-- The count that a number is. -/
def countOfNumber : Json.Number → Except DecodeError Nat
  | .integer n h =>
    if 0 ≤ n then .ok n.toNat else .error (.wrongValue (.number (.integer n h)) "usize")
  | .float x h => .error (.wrongType (.number (.float x h)) "usize")

/-- The count that a value is. -/
def countOfJson : Json → Except DecodeError Nat
  | .number n => countOfNumber n
  | other => .error (.wrongType other.found "usize")

/-- The operator of a name. -/
def operatorOfName (name : String) : Except DecodeError Operator :=
  match Operator.ofName? name with
  | some op => .ok op
  | none => .error (.unknownOperator name)

/-- The operator that a value is. -/
def operatorOfJson : Json → Except DecodeError Operator
  | .string name => operatorOfName name
  | .object [(name, value)] => do
    let op ← operatorOfName name
    if value = .null then return op else throw (.wrongType value.found "unit")
  | .object _ => .error (.wrongValue .map "map with a single key")
  | other => .error (.wrongType other.found "string or map")

/-- The operators that a value lists. -/
def operatorsOfJson : Json → Except DecodeError (List Operator)
  | .array items => items.mapM operatorOfJson
  | other => .error (.wrongType other.found "a sequence")

/-! ## Parts from texts -/

/-- Reads a count. -/
def scanCount (cs : List Char) : Except DecodeError (Scanned Nat) :=
  match Json.skipBlanks cs with
  | '-' :: rest => do
    let (n, rest) ← ofReading (Json.scanNumber true rest)
    return (← countOfNumber n, rest)
  | c :: rest =>
    if c.isDigit then do
      let (n, rest) ← ofReading (Json.scanNumber false (c :: rest))
      return (← countOfNumber n, rest)
    else .error (wrongTypeAhead "usize" (c :: rest))
  | [] => .error (.text .endInValue)

/-- Reads the null that stands with an operator in an object. -/
def scanUnit (cs : List Char) : Except DecodeError (List Char) :=
  match Json.skipBlanks cs with
  | 'n' :: rest => return (← ofReading (Json.scanLiteral .null ['u', 'l', 'l'] rest)).2
  | rest => .error (wrongTypeAhead "unit" rest)

/-- Reads the object that gives an operator, behind its opening brace: it has one
    key, which is a string. -/
def scanTagged (cs : List Char) : Except DecodeError (Scanned Operator) :=
  match Json.skipBlanks cs with
  | '"' :: rest => do
    let (name, rest) ← ofReading (Json.scanString rest)
    let op ← operatorOfName name
    let rest ← scanUnit (← ofReading (Json.scanColon rest))
    match Json.skipBlanks rest with
    | '}' :: rest => return (op, rest)
    | [] => throw (.text .endInObject)
    | _ => throw (.text .expectedValue)
  | [] => .error (.text .endInObject)
  | '}' :: _ => .error (.text .expectedValue)
  | _ => .error (.text .expectedKey)

/-- Reads an operator. -/
def scanOperator (cs : List Char) : Except DecodeError (Scanned Operator) :=
  match Json.skipBlanks cs with
  | '"' :: rest => do
    let (name, rest) ← ofReading (Json.scanString rest)
    return (← operatorOfName name, rest)
  | '{' :: rest => scanTagged rest
  | [] => .error (.text .endInValue)
  | _ => .error (.text .expectedValue)

/-- Reads the operators of a list to its end.  Each round uses up a character at
    least. -/
def scanOperatorItems : (rounds : Nat) → (first : Bool) → List Char →
    Except DecodeError (Scanned (List Operator))
  | 0, _, _ => .error (.text .endInList)
  | rounds + 1, first, cs => do
    match ← ofReading (Json.elementAhead first cs) with
    | .close rest => return ([], rest)
    | .item rest =>
      let (op, rest) ← scanOperator rest
      let (ops, rest) ← scanOperatorItems rounds false rest
      return (op :: ops, rest)

/-- Reads a list of operators. -/
def scanOperators (cs : List Char) : Except DecodeError (Scanned (List Operator)) :=
  match Json.skipBlanks cs with
  | '[' :: rest => scanOperatorItems (rest.length + 1) true rest
  | rest => .error (wrongTypeAhead "a sequence" rest)

/-! ## Limits -/

/-- Limits of which parts have been given. -/
structure Draft where
  maxDepth : Option Nat
  disabled : Option (List Operator)

/-- Limits of which nothing has been given. -/
def Draft.empty : Draft := ⟨none, none⟩

/-- The limits of a draft; what has not been given has its default. -/
def Draft.limits (draft : Draft) : Limits :=
  ⟨draft.maxDepth.getD default.maxDepth, draft.disabled.getD default.disabled⟩

/-- The greatest number of levels. -/
def maxDepthField : Field Draft where
  key := "max_depth"
  isSet draft := draft.maxDepth.isSome
  ofJson draft value := do return { draft with maxDepth := some (← countOfJson value) }
  scan draft cs := do
    let (n, rest) ← scanCount cs
    return ({ draft with maxDepth := some n }, rest)

/-- The operators that may not be used. -/
def disabledField : Field Draft where
  key := "disabled_operators"
  isSet draft := draft.disabled.isSome
  ofJson draft value := do return { draft with disabled := some (← operatorsOfJson value) }
  scan draft cs := do
    let (ops, rest) ← scanOperators cs
    return ({ draft with disabled := some ops }, rest)

/-- The known keys of limits. -/
def fields : List (Field Draft) := [maxDepthField, disabledField]

/-- What is expected of the whole. -/
def expected : String := "struct Limits"

/-- Takes the parts of limits from a list. -/
def draftOfItems : List Json → Except DecodeError Draft
  | [] => .ok .empty
  | [depth] => maxDepthField.ofJson .empty depth
  | depth :: disabled :: rest => do
    let draft ← disabledField.ofJson (← maxDepthField.ofJson .empty depth) disabled
    if rest.isEmpty then return draft
    else throw (.wrongLength (rest.length + 2) "fewer elements in array")

/-- The limits that a value gives. -/
def ofJson (json : Json) : Except DecodeError Limits :=
  match json with
  | .object ms => (decodeMembers fields .empty ms).map Draft.limits
  | .array items => (draftOfItems items).map Draft.limits
  | other => .error (.wrongType other.found expected)

/-- Reads the parts of limits from a list, behind its opening bracket. -/
def scanItems (cs : List Char) : Except DecodeError (Scanned Draft) := do
  match ← ofReading (Json.elementAhead true cs) with
  | .close rest => return (.empty, rest)
  | .item rest =>
    let (draft, rest) ← maxDepthField.scan .empty rest
    match ← ofReading (Json.elementAhead false rest) with
    | .close rest => return (draft, rest)
    | .item rest =>
      let (draft, rest) ← disabledField.scan draft rest
      return (draft, ← ofReading (Json.closeList rest))

/-- The limits that a text gives. -/
def ofText (text : String) : Except DecodeError Limits := do
  let (draft, rest) ← match Json.skipBlanks text.toList with
    | '{' :: rest => scanFields fields (rest.length + 1) true .empty rest
    | '[' :: rest => scanItems rest
    | rest => .error (wrongTypeAhead expected rest)
  ofReading (Json.closeText rest)
  return draft.limits

end FilterRules.Limits
