/-
  FilterRules — limits on rules.

  Limits say how many levels a rule may have and which operators it may not use.

  * `Limits`, the default limits and those of a search;
  * `disable` adds an operator to those that are not allowed, once;
  * `allows` tells whether an operator may be used.
-/
import FilterRules.Operator

namespace FilterRules

/-- The limits that a rule has to keep. -/
structure Limits where
  /-- The greatest number of levels; a single comparison has one. -/
  maxDepth : Nat
  /-- The operators that may not be used. -/
  disabled : List Operator
  deriving DecidableEq, Repr

namespace Limits

/-- Two levels of groups above the comparisons. -/
def defaultDepth : Nat := 3

/-- The depth that a search allows. -/
def searchDepth : Nat := 3

/-- The limits where none are given. -/
def default : Limits := ⟨defaultDepth, []⟩

/-- The limits of a search. -/
def search : Limits := ⟨searchDepth, []⟩

/-- The limits with another greatest depth. -/
def withMaxDepth (limits : Limits) (maxDepth : Nat) : Limits := { limits with maxDepth }

/-- The limits without an operator. -/
def disable (limits : Limits) (operator : Operator) : Limits :=
  if limits.disabled.contains operator then limits
  else { limits with disabled := limits.disabled ++ [operator] }

/-- Whether an operator may be used: the registry has it switched on, and it is
    not among those that these limits leave out. -/
def allows (limits : Limits) (operator : Operator) : Bool :=
  operator.isEnabled && !limits.disabled.contains operator

end Limits

end FilterRules
