/-
  FilterRules — rules inside other data.

  Other data holds a rule under the key `filter`.  Whether there has to be one
  depends on the style: it may be required; it may be null or missing; or it may
  be anything that counts as no rule, or missing.

  * `Payload.Style` and what it makes of the value of the key (`ofMember`) or of
    its absence (`absent`);
  * `Payload.ofJson` decodes such data from a JSON value and `Payload.ofText` from
    a JSON text, in which a rule that is wrong is reported as soon as its JSON has
    been read;
  * `Rule.decodeJson` and `Rule.decodeText` decode a rule that is the data itself.
-/
import FilterRules.Decode.Fields
import FilterRules.Rule.Reader

namespace FilterRules

open Json (Scanned)

/-- The rule of a JSON value that has to hold one. -/
def Rule.decodeJson (json : Json) : Except DecodeError Rule :=
  match Rule.ofJson json with
  | .ok (some rule) => .ok rule
  | .ok none => .error (.rule (.atRoot .noFilter))
  | .error e => .error (.rule e)

/-- The rule of a JSON text that has to hold one. -/
def Rule.decodeText (text : String) : Except DecodeError Rule := do
  let (json, rest) ← ofReading (Json.scanValue Json.nestingLimit text.toList)
  let rule ← Rule.decodeJson json
  ofReading (Json.closeText rest)
  return rule

namespace Payload

/-- How data holds a rule. -/
inductive Style where
  /-- There has to be a rule. -/
  | required
  /-- There is a rule, or null, or nothing. -/
  | nullable
  /-- There is a rule, or anything that is no rule, or nothing. -/
  | optional
  deriving DecidableEq, Repr

/-- The key under which data holds a rule. -/
def memberKey : String := "filter"

namespace Style

/-- The rule of the value that stands under the key. -/
def ofMember : Style → Json → Except DecodeError (Option Rule)
  | .required, json => (Rule.decodeJson json).map some
  | .nullable, .null => .ok none
  | .nullable, json => (Rule.decodeJson json).map some
  | .optional, json => (Rule.ofJson json).mapError .rule

/-- The rule where the key is missing. -/
def absent : Style → Except DecodeError (Option Rule)
  | .required => .error (.missingKey memberKey)
  | .nullable | .optional => .ok none

/-- What is expected of the whole. -/
def expected : Style → String
  | .required => "struct Required"
  | .nullable => "struct Nullable"
  | .optional => "struct Optional"

/-- What a list without items gives. -/
def absentItem : Style → Except DecodeError (Option Rule)
  | .optional => .ok none
  | style => .error (.wrongLength 0 (style.expected ++ " with 1 element"))

/-- Reads the value that stands under the key, one level inside the text. -/
def scanMember (style : Style) (cs : List Char) : Except DecodeError (Scanned (Option Rule)) := do
  let (json, rest) ← ofReading (Json.scanValue (Json.nestingLimit - 1) cs)
  return (← style.ofMember json, rest)

/-- The key that holds the rule.  What has been decoded is the rule, once the key
    has come. -/
def field (style : Style) : Field (Option (Option Rule)) where
  key := memberKey
  isSet := Option.isSome
  ofJson _ json := do return some (← style.ofMember json)
  scan _ cs := do
    let (rule, rest) ← style.scanMember cs
    return (some rule, rest)

/-- The rule of data of which all keys have been seen. -/
def finish (style : Style) : Option (Option Rule) → Except DecodeError (Option Rule)
  | some rule => .ok rule
  | none => style.absent

end Style

/-- The rule of data given as a JSON value. -/
def ofJson (style : Style) (json : Json) : Except DecodeError (Option Rule) :=
  match json with
  | .object ms => do style.finish (← decodeMembers [style.field] none ms)
  | .array [] => style.absentItem
  | .array (item :: rest) => do
    let rule ← style.ofMember item
    if rest.isEmpty then return rule
    else throw (.wrongLength (rest.length + 1) "fewer elements in array")
  | other => .error (.wrongType other.found style.expected)

/-- Reads a list that holds the rule, behind its opening bracket. -/
def scanItems (style : Style) (cs : List Char) :
    Except DecodeError (Scanned (Option Rule)) := do
  match ← ofReading (Json.elementAhead true cs) with
  | .close rest => return (← style.absentItem, rest)
  | .item rest =>
    let (rule, rest) ← style.scanMember rest
    return (rule, ← ofReading (Json.closeList rest))

/-- Reads an object that holds the rule, behind its opening brace. -/
def scanObject (style : Style) (cs : List Char) :
    Except DecodeError (Scanned (Option Rule)) := do
  let (found, rest) ← scanFields [style.field] (cs.length + 1) true none cs
  return (← style.finish found, rest)

/-- The rule of data given as a JSON text. -/
def ofText (style : Style) (text : String) : Except DecodeError (Option Rule) := do
  let (rule, rest) ← match Json.skipBlanks text.toList with
    | '{' :: rest => scanObject style rest
    | '[' :: rest => scanItems style rest
    | rest => .error (wrongTypeAhead style.expected rest)
  ofReading (Json.closeText rest)
  return rule

end Payload

end FilterRules
