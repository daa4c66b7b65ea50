/-
  FilterRules — reading what has been written.

  * `ofMembers_comparison` and `conditionMember_group`: the keys of a node that
    has been written;
  * `readItems_toJsonList`: children that read back one by one read back in a row;
  * `readNode_toJson`, `readLogged_toJson` and `ofJson_toJson`: a rule that has been
    written as JSON reads back, whether it is valid or not.
-/
import FilterRules.Proofs.Rule.Structure
import FilterRules.Rule.Reader

namespace FilterRules.Rule

/-! ## Nodes -/

theorem ofMembers_comparison (c : Comparison) :
    Comparison.ofMembers
        [("field", .string c.field), ("operator", .string c.operatorName), ("value", c.value)] =
      .ok c := by
  rfl

theorem conditionMember_group (condition : Condition) (rules : Json) :
    conditionMember [("condition", .string condition.name), ("rules", rules)] = .ok condition := by
  simp [conditionMember, Json.Members.find?, Condition.ofName_name]

theorem readNode_comparison (c : Comparison) :
    (readNode (comparison c).toJson).result = .ok (comparison c) := by
  rw [toJson, readNode, if_neg (by rw [Bool.not_eq_true]; rfl), if_pos (by rfl)]
  simp only [Logged.result_bind, ofMembers_comparison]
  rfl

theorem toJsonList_eq (rules : List Rule) : toJsonList rules = rules.map toJson := by
  induction rules with
  | nil => rfl
  | cons r rules ih => rw [toJsonList, ih, List.map_cons]

theorem readItems_toJsonList {rules : List Rule}
    (h : ∀ r ∈ rules, (readNode r.toJson).result = .ok r) (index : Nat) :
    (readItems index (toJsonList rules)).result = .ok rules := by
  induction rules generalizing index with
  | nil => rfl
  | cons r rules ih =>
    obtain ⟨hr, hrs⟩ := List.forall_mem_cons.1 h
    rw [toJsonList, readItems, Logged.result_bind, Logged.mapError, hr]
    change (_ >>= _ : Logged (List Rule)).result = _
    rw [Logged.result_bind, ih hrs]
    rfl

theorem readNode_group {condition : Condition} {rules : List Rule}
    (h : ∀ r ∈ rules, (readNode r.toJson).result = .ok r) :
    (readNode (group condition rules).toJson).result = .ok (group condition rules) := by
  have hc : (readChildren
      [("condition", .string condition.name), ("rules", .array (toJsonList rules))]).result =
      .ok rules := by
    simp only [readChildren]
    rw [if_neg (by decide), if_pos trivial]
    exact readItems_toJsonList h 0
  rw [toJson, readNode, if_pos (by rfl)]
  simp only [Logged.result_bind, conditionMember_group, hc]
  rfl

/-! ## Rules -/

theorem readNode_toJson (rule : Rule) : (readNode rule.toJson).result = .ok rule := by
  induction rule with
  | comparison c => exact readNode_comparison c
  | group condition rules ih => exact readNode_group ih

/-- What has been written is never taken for no rule. -/
theorem readLogged_toJson (rule : Rule) : (readLogged rule.toJson).result = .ok (some rule) := by
  have hn : (some <$> readNode rule.toJson).result = .ok (some rule) := by
    change (readNode rule.toJson >>= fun r => pure (some r)).result = _
    rw [Logged.result_bind, readNode_toJson]
    rfl
  have hr : readLogged rule.toJson =
      (some <$> readNode rule.toJson).reporting .readingFailed := by
    cases rule <;> rfl
  rw [hr, Logged.result_reporting, hn]

/-- **Writing a rule as JSON and reading it gives the rule again.** -/
theorem ofJson_toJson (rule : Rule) : ofJson rule.toJson = .ok (some rule) :=
  readLogged_toJson rule

end FilterRules.Rule
