/-
  FilterRules — rewriting rules.

  Which records a rule matches does not depend on how its groups are written down: their rules
  may be put in another order, repeated and taken out of groups that add nothing.

  * `Reshapes` are the four ways to rewrite a group, and `Rewrites` is a rewriting of a group
    anywhere in a rule;
  * `Reshapes.evaluate` and `Rewrites.evaluate`: a rewriting keeps the answer of a rule, whatever
    its comparisons answer, first at the group and then through the groups around it;
  * `matchesRecord_rewritten`: rules that rewritings lead between match the same records.

  A group without rules is a yes also under `OR`, where a no would be what adds nothing.  So a
  group is only taken apart when it has rules.
-/
import FilterRules.Matching
import FilterRules.Proofs.Rule.Evaluation
import Mathlib.Logic.Relation

namespace FilterRules.Rule

/-! ## Rewritings -/

/-- A way to rewrite a group. -/
inductive Reshapes : Rule → Rule → Prop
  /-- Its rules stand in another order. -/
  | permute {condition rules rules'} : rules.Perm rules' →
      Reshapes (.group condition rules) (.group condition rules')
  /-- One of its rules stands there once more. -/
  | duplicate {condition before after r} : r ∈ before ++ after →
      Reshapes (.group condition (before ++ after)) (.group condition (before ++ r :: after))
  /-- The rules of a group with the same condition stand in the place of that group. -/
  | flatten {condition before inner after} : inner ≠ [] →
      Reshapes (.group condition (before ++ .group condition inner :: after))
        (.group condition (before ++ inner ++ after))
  /-- The only rule of a group stands in its place. -/
  | unwrap {condition r} : Reshapes (.group condition [r]) r

/-- A group of a rule, the rule itself or one anywhere below, is rewritten. -/
inductive Rewrites : Rule → Rule → Prop
  | here {rule rule'} : Reshapes rule rule' → Rewrites rule rule'
  | inside {condition before r r' after} : Rewrites r r' →
      Rewrites (.group condition (before ++ r :: after)) (.group condition (before ++ r' :: after))

/-! ## Answers -/

section
variable {rule rule' : Rule}

/-- **A rewritten group has the same answer.** -/
theorem Reshapes.evaluate (h : Reshapes rule rule') (holds : Comparison → Bool) :
    rule.evaluate holds = rule'.evaluate holds := by
  cases h with
  | @permute condition rules rules' h =>
    by_cases hne : rules = []
    · subst hne
      rw [h.nil_eq]
    · have hne' : rules' ≠ [] := fun he => hne ((he ▸ h).eq_nil)
      exact evaluate_group_congr hne hne' (exists_congr fun r => and_congr_left' h.mem_iff)
  | @duplicate condition before after r h =>
    refine evaluate_group_congr (List.ne_nil_of_mem h) (by simp) (exists_congr fun s => ?_)
    have hm : s ∈ before ++ r :: after ↔ s ∈ before ++ after := by
      rw [List.perm_middle.mem_iff, List.mem_cons, or_iff_right_of_imp (fun he => he ▸ h)]
    rw [hm]
  | @flatten condition before inner after h =>
    refine evaluate_group_congr (by simp) (by simp [h]) ?_
    simp only [List.mem_append, List.mem_cons, or_and_right, exists_or, exists_eq_left,
      evaluate_decisive_iff h, or_assoc]
  | @unwrap condition =>
    cases condition with
    | and => rw [evaluate_and, List.all_cons, List.all_nil, Bool.and_true]
    | or => rw [evaluate_or holds (List.cons_ne_nil rule' []), List.any_cons, List.any_nil,
        Bool.or_false]

/-- **A rewriting anywhere in a rule keeps its answer.** -/
theorem Rewrites.evaluate (h : Rewrites rule rule') (holds : Comparison → Bool) :
    rule.evaluate holds = rule'.evaluate holds := by
  induction h with
  | here h => exact h.evaluate holds
  | inside _ ih =>
    refine evaluate_group_congr (by simp) (by simp) ?_
    simp only [List.mem_append, List.mem_cons, or_and_right, exists_or, exists_eq_left, ih]

/-- Rules that rewritings lead between, forwards or backwards, have the same answer. -/
theorem evaluate_rewritten (h : Relation.EqvGen Rewrites rule rule') (holds : Comparison → Bool) :
    rule.evaluate holds = rule'.evaluate holds := by
  induction h with
  | rel _ _ h => exact h.evaluate holds
  | refl => rfl
  | symm _ _ _ ih => exact ih.symm
  | trans _ _ _ _ _ ih ih' => exact ih.trans ih'

/-- Under `OR` a group without rules cannot be left out: without it the rule around it may be
    a no. -/
example (c : Comparison) :
    (group .or [group .or [], .comparison c]).evaluate (fun _ => false) = true ∧
      (group .or [.comparison c]).evaluate (fun _ => false) = false :=
  ⟨rfl, rfl⟩

/-! ## Records -/

/-- **Rules that rewritings lead between match the same records.** -/
theorem matchesRecord_rewritten (h : Relation.EqvGen Rewrites rule rule') :
    (∀ record : Record, rule.matchesRecord record = rule'.matchesRecord record) ∧
    ∀ (α : Type) (record : α → Record) (records : List α),
      rule.filter record records = rule'.filter record records ∧
      rule.count record records = rule'.count record records ∧
      rule.any record records = rule'.any record records ∧
      rule.all record records = rule'.all record records ∧
      rule.find? record records = rule'.find? record records := by
  have hm (record : Record) : rule.matchesRecord record = rule'.matchesRecord record :=
    evaluate_rewritten h _
  refine ⟨hm, fun α record records => ?_⟩
  simp only [filter, count, any, all, find?, hm, and_self]

/-- A rule that is unwrapped, flattened, put in another order and rid of a repetition, with the
    records that it matches. -/
theorem matchesRecord_rewritten_nested :
    let x : Rule := .comparison ⟨"tag", "equal", .string "x"⟩
    let y : Rule := .comparison ⟨"tag", "begins_with", .string "y"⟩
    let z : Rule := .comparison ⟨"tag", "is_empty", .null⟩
    let nested := group .or [x, group .and [y], group .or [z, x]]
    let plain := group .or [z, y, x]
    let values : List FieldValue := [.string "z", .string "yes", .missing, .array []]
    Relation.EqvGen Rewrites nested plain ∧
      nested.filter (fun value _ => value) values = [FieldValue.string "yes", .array []] ∧
      plain.filter (fun value _ => value) values = [FieldValue.string "yes", .array []] := by
  intro x y z nested plain values
  have h : Relation.EqvGen Rewrites nested plain := by
    have unwrapped : Rewrites nested (group .or [x, y, group .or [z, x]]) :=
      @Rewrites.inside _ [x] _ _ _ (.here .unwrap)
    have flattened : Rewrites (group .or [x, y, group .or [z, x]]) (group .or [x, y, z, x]) :=
      .here (@Reshapes.flatten _ [x, y] _ [] (by simp))
    have permuted : Rewrites (group .or [x, y, z, x]) (group .or [z, y, x, x]) :=
      .here (.permute (by decide))
    have repeated : Rewrites plain (group .or [z, y, x, x]) :=
      .here (@Reshapes.duplicate _ [z, y, x] [] _ (by simp))
    exact ((Relation.EqvGen.rel _ _ unwrapped).trans _ _ _ (.rel _ _ flattened)).trans _ _ _
      ((Relation.EqvGen.rel _ _ permuted).trans _ _ _ (.symm _ _ (.rel _ _ repeated)))
  have hf : nested.filter (fun value _ => value) values = [FieldValue.string "yes", .array []] := by
    decide
  obtain ⟨-, hr⟩ := matchesRecord_rewritten h
  obtain ⟨hp, -⟩ := hr FieldValue (fun value _ => value) values
  exact ⟨h, hf, hp ▸ hf⟩

end

end FilterRules.Rule
