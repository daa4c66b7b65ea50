/-
  FilterRules — reading rules.

  Reading looks at the shape of a rule only: an object with a key `condition` is
  a group, any other object with a key `operator` a comparison.  A key that is
  missing or null counts as empty, except the condition of a group.  Names and
  values are not checked.

  * `Rule.readNode` reads a node and all below it, writing an event for each
    node that it enters; the first failure ends it;
  * `Rule.readLogged` reads a rule or no rule (`null` and an empty object), and
    `Rule.ofJson` is what it gives;
  * `Rule.readTextLogged` and `Rule.ofText` read a JSON text; a blank text is no
    rule.
-/
import FilterRules.Json.Reader
import FilterRules.Log
import FilterRules.Rule.Basic
import FilterRules.Text.Basic

namespace FilterRules

open Json (Members)

/-! ## The parts of a node -/

/-- The string of a key; nothing and `null` are the empty string. -/
def stringMember (ms : Members) (key : String) (expected : Expected) : Except RuleError String :=
  match ms.find? key with
  | none | some .null => .ok ""
  | some (.string s) => .ok s
  | some _ => .error ⟨key, .malformed expected⟩

/-- The condition of a group. -/
def conditionMember (ms : Members) : Except RuleError Condition :=
  match ms.find? "condition" with
  | some (.string name) =>
    match Condition.ofName? name with
    | some condition => .ok condition
    | none => .error ⟨"condition", .unknownCondition name⟩
  | _ => .error ⟨"condition", .malformed .condition⟩

/-- The comparison of a leaf. -/
def Comparison.ofMembers (ms : Members) : Except RuleError Comparison := do
  let field ← stringMember ms "field" .field
  let operatorName ← stringMember ms "operator" .operator
  return ⟨field, operatorName, (ms.find? "value").getD .null⟩

namespace Rule

/-! ## Nodes -/

mutual

/-- Reads a node and all that is below it. -/
def readNode : Json → Logged Rule
  | .object ms =>
    if (Members.find? ms "condition").isSome then do
      Logged.log .enteredGroup
      let condition ← Logged.ofExcept (conditionMember ms)
      let rules ← readChildren ms
      return .group condition rules
    else if (Members.find? ms "operator").isSome then do
      Logged.log .enteredComparison
      let c ← Logged.ofExcept (Comparison.ofMembers ms)
      return .comparison c
    else Logged.fail (.atRoot .noFilter)
  | _ => Logged.fail (.atRoot (.malformed .rule))

/-- Reads the children of a group, which stand under the key `rules`. -/
def readChildren : List (String × Json) → Logged (List Rule)
  | [] => return []
  | (key, value) :: rest =>
    if key = "rules" then
      match value with
      | .null => return []
      | .array items => readItems 0 items
      | _ => Logged.fail ⟨"rules", .malformed .rules⟩
    else readChildren rest

/-- Reads the children from the one with a given index on. -/
def readItems (index : Nat) : List Json → Logged (List Rule)
  | [] => return []
  | item :: items => do
    let rule ← (readNode item).mapError (RuleError.withinChild index)
    let rules ← readItems (index + 1) items
    return rule :: rules

end

/-! ## Rules -/

/-- Reads a rule, or no rule. -/
def readLogged : Json → Logged (Option Rule)
  | .null | .object [] => return none
  | node => (some <$> readNode node).reporting .readingFailed

/-- The rule of a JSON value, if it holds one. -/
def ofJson (node : Json) : Except RuleError (Option Rule) := (readLogged node).result

/-- Reads a rule, or no rule, from a JSON text. -/
def readTextLogged (text : String) : Logged (Option Rule) :=
  if Text.isBlank text then return none
  else
    match Json.read text with
    | .ok node => readLogged node
    | .error fault => Logged.fail (.atRoot (.invalidJson (fault.describe text.toList)))

/-- The rule of a JSON text, if it holds one. -/
def ofText (text : String) : Except RuleError (Option Rule) := (readTextLogged text).result

end Rule

end FilterRules
