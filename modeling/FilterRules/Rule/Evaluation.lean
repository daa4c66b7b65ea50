/-
  FilterRules — evaluating rules.

  A rule can be put to anything that answers its comparisons.  They are asked from
  left to right, as long as they can change the answer of their group: a group
  joined by `AND` ends at the first no, one joined by `OR` at the first yes.  A
  group without rules is a yes.

  * `Rule.evaluateM` asks for answers that may have an effect;
  * `Rule.evaluate` is the answer when asking has none, and `Rule.asked` the list
    of the comparisons that are asked.
-/
import FilterRules.Rule.Basic

namespace FilterRules

namespace Rule

section
variable {m : Type → Type} [Monad m]

mutual

/-- The answer of a rule, its comparisons being asked one after the other. -/
def evaluateM (ask : Comparison → m Bool) : Rule → m Bool
  | .comparison c => ask c
  | .group _ [] => pure true
  | .group condition (rule :: rules) => evaluateListM ask condition (rule :: rules)

/-- The answer of some rules joined by a condition: the first decisive answer
    ends the asking. -/
def evaluateListM (ask : Comparison → m Bool) (condition : Condition) : List Rule → m Bool
  | [] => pure !condition.decisive
  | rule :: rules => do
    let answer ← evaluateM ask rule
    if answer = condition.decisive then pure answer else evaluateListM ask condition rules

end

end

/-- The answer of a rule to a predicate on its comparisons. -/
def evaluate (holds : Comparison → Bool) (rule : Rule) : Bool :=
  Id.run (rule.evaluateM fun c => pure (holds c))

/-- Answers a comparison and notes that it has been asked. -/
def note (holds : Comparison → Bool) (c : Comparison) : StateM (List Comparison) Bool := do
  modify (· ++ [c])
  return holds c

/-- The comparisons that are asked for the answer of a rule, in order. -/
def asked (holds : Comparison → Bool) (rule : Rule) : List Comparison :=
  ((rule.evaluateM (note holds)).run []).2

end Rule

end FilterRules
