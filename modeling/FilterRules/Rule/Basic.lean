/-
  FilterRules — rules.

  A rule is a tree: its leaves compare a field with a value, its inner nodes are
  groups of rules joined by `AND` or `OR`.

  * `Comparison` is a leaf.  It holds the name of its operator, so that a rule
    with an unknown operator can be built, though not validated;
  * `Condition` and `Rule`, with decidable equality;
  * `Rule.depth` is the number of levels, `Rule.wrap` a rule in groups of its own,
    `Rule.child?` a child of a group;
  * `Rule.toJson` writes a rule as JSON: a group as an object of `condition` and
    `rules`, a leaf as an object of `field`, `operator` and `value`.
-/
import FilterRules.Operator
import FilterRules.Json.Members

namespace FilterRules

/-! ## Conditions -/

/-- How the rules of a group are joined. -/
inductive Condition where
  | and
  | or
  deriving DecidableEq, Repr

namespace Condition

/-- The name of a condition. -/
def name : Condition → String
  | .and => "AND"
  | .or => "OR"

/-- The condition of a name. -/
def ofName? (name : String) : Option Condition :=
  if name = "AND" then some .and else if name = "OR" then some .or else none

theorem ofName_name (c : Condition) : ofName? c.name = some c := by cases c <;> decide

/-- The answer of a child that settles the answer of its group: under `AND` a
    no, under `OR` a yes. -/
def decisive : Condition → Bool
  | .and => false
  | .or => true

end Condition

/-! ## Rules -/

/-- A comparison of a field with a value. -/
structure Comparison where
  /-- The field; dots lead into nested objects. -/
  field : String
  /-- The name of the operator. -/
  operatorName : String
  value : Json
  deriving DecidableEq

/-- The comparison by an operator of the registry. -/
def Comparison.ofOperator (field : String) (operator : Operator) (value : Json) : Comparison :=
  ⟨field, operator.name, value⟩

/-- The operator of a comparison, if the registry has it. -/
def Comparison.operator? (c : Comparison) : Option Operator := Operator.ofName? c.operatorName

/-- A rule. -/
inductive Rule where
  | comparison (c : Comparison)
  | group (condition : Condition) (rules : List Rule)

namespace Rule

mutual

/-- Equality of rules is decidable, child by child. -/
def decEq : (a b : Rule) → Decidable (a = b)
  | .comparison x, .comparison y =>
    if h : x = y then isTrue (h ▸ rfl) else isFalse (by simp [h])
  | .group c rs, .group d ss =>
    if hc : c = d then
      match decEqList rs ss with
      | isTrue h => isTrue (by rw [hc, h])
      | isFalse h => isFalse (by simp [h])
    else isFalse (by simp [hc])
  | .comparison _, .group _ _ | .group _ _, .comparison _ => isFalse (by simp)

/-- Equality of lists of rules. -/
def decEqList : (rs ss : List Rule) → Decidable (rs = ss)
  | [], [] => isTrue rfl
  | [], _ :: _ | _ :: _, [] => isFalse (by simp)
  | r :: rs, s :: ss =>
    match decEq r s, decEqList rs ss with
    | isTrue h, isTrue hs => isTrue (by rw [h, hs])
    | isFalse h, _ => isFalse (by simp [h])
    | _, isFalse hs => isFalse (by simp [hs])

end

instance : DecidableEq Rule := decEq

mutual

/-- The number of levels: one for a comparison, for a group one more than its
    deepest child has. -/
def depth : Rule → Nat
  | .comparison _ => 1
  | .group _ rules => depths rules + 1

/-- The number of levels of the deepest of some rules. -/
def depths : List Rule → Nat
  | [] => 0
  | rule :: rules => max rule.depth (depths rules)

end

/-- The rule inside a number of groups that hold nothing else. -/
def wrap (condition : Condition) : (times : Nat) → Rule → Rule
  | 0, rule => rule
  | times + 1, rule => wrap condition times (.group condition [rule])

/-- A child of a group. -/
def child? : Rule → (index : Nat) → Option Rule
  | .group _ rules, index => rules[index]?
  | .comparison _, _ => none

/-- The group with one more child at its end; a comparison has no children. -/
def push? : Rule → (child : Rule) → Option Rule
  | .group condition rules, child => some (.group condition (rules ++ [child]))
  | .comparison _, _ => none

/-! ## Writing -/

mutual

/-- A rule as JSON. -/
def toJson : Rule → Json
  | .comparison c =>
    .object [("field", .string c.field), ("operator", .string c.operatorName), ("value", c.value)]
  | .group condition rules =>
    .object [("condition", .string condition.name), ("rules", .array (toJsonList rules))]

/-- Some rules as JSON. -/
def toJsonList : List Rule → List Json
  | [] => []
  | rule :: rules => rule.toJson :: toJsonList rules

end

end Rule

end FilterRules
