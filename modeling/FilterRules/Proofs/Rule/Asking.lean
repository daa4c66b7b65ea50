/-
  FilterRules — which comparisons are asked.

  The answer of a rule does not show that asking ends early, but the comparisons that are asked
  on the way to it do.

  * `answer` is the answer of a rule when every comparison is asked, and
    `evaluate_eq_answer` says that ending early does not change it;
  * `Undecided` says of an address that no group above it has its answer before the turn of
    the child that leads there;
  * `visits` are the comparisons that are asked, each with its address: they are what a run
    notes (`run_evaluateM`), stand in the order of the rule (`pairwise_visits`), and are those
    at undecided addresses (`mem_visits_iff`);
  * `evaluate_asked_exact` joins these.
-/
import FilterRules.Proofs.Rule.Evaluation

namespace FilterRules

/-! ## Full answers -/

/-- The answer of a group from the answers of its children. -/
def Condition.join : Condition → List Bool → Bool
  | .and, answers => answers.all id
  | .or, answers => answers.any id

theorem Condition.join_cons (condition : Condition) (b : Bool) (answers : List Bool) :
    condition.join (b :: answers) =
      if b = condition.decisive then b else condition.join answers := by
  cases condition <;> cases b <;> rfl

namespace Rule

variable (holds : Comparison → Bool)

mutual

/-- The answer of a rule, every comparison of it being asked.  A group without rules is a yes. -/
def answer : Rule → Bool
  | .comparison c => holds c
  | .group condition rules => rules.isEmpty || condition.join (answers rules)

/-- The answers of some rules. -/
def answers : List Rule → List Bool
  | [] => []
  | rule :: rules => answer rule :: answers rules

end

theorem answers_eq (rules : List Rule) : answers holds rules = rules.map (answer holds) := by
  induction rules with
  | nil => rfl
  | cons r rules ih => rw [answers, ih, List.map_cons]

theorem answer_group {condition : Condition} {rules : List Rule} (h : rules ≠ []) :
    (group condition rules).answer holds = condition.join (rules.map (answer holds)) := by
  rw [answer, answers_eq, List.isEmpty_eq_false_iff.2 h, Bool.false_or]

/-- **Ending early does not change the answer of a rule.** -/
theorem evaluate_eq_answer (rule : Rule) : rule.evaluate holds = rule.answer holds := by
  induction rule with
  | comparison c => rfl
  | group condition rules ih =>
    by_cases h : rules = []
    · subst h
      rfl
    · have hm : rules.map (evaluate holds) = rules.map (answer holds) := List.map_congr_left ih
      rw [answer_group holds h, ← hm]
      cases condition with
      | and => rw [evaluate_and, Condition.join, List.all_map, Function.id_comp]
      | or => rw [evaluate_or _ h, Condition.join, List.any_map, Function.id_comp]

/-! ## Undecided addresses -/

/-- No group above an address has its answer from the children that come before the child that
    leads to the address: under `AND` they all are a yes, under `OR` all a no. -/
def Undecided (rule : Rule) (address : List Nat) : Prop :=
  ∀ above index below, address = above ++ index :: below →
    ∀ condition rules, rule.at? above = some (.group condition rules) →
      ∀ i earlier, i < index → rules[i]? = some earlier →
        earlier.answer holds ≠ condition.decisive

variable {holds}

theorem undecided_nil (rule : Rule) : rule.Undecided holds [] := by
  intro above index below h
  simp at h

theorem undecided_cons {condition : Condition} {rules : List Rule} {index : Nat}
    {address : List Nat} {r : Rule} (hr : rules[index]? = some r) :
    (group condition rules).Undecided holds (index :: address) ↔
      (∀ i earlier, i < index → rules[i]? = some earlier →
        earlier.answer holds ≠ condition.decisive) ∧ r.Undecided holds address := by
  constructor
  · intro h
    refine ⟨h [] index address rfl condition rules rfl, ?_⟩
    intro above j below he condition' rules' hat
    exact h (index :: above) j below (by rw [he]; rfl) condition' rules'
      (at?_group_cons.2 ⟨r, hr, hat⟩)
  · rintro ⟨hhere, hbelow⟩ above j below he condition' rules' hat
    cases above with
    | nil =>
      cases he
      cases hat
      exact hhere
    | cons k above =>
      obtain ⟨rfl, hbelow'⟩ := List.cons.inj he
      obtain ⟨r', hr', hat⟩ := at?_group_cons.1 hat
      obtain rfl : r = r' := Option.some.inj (hr.symm.trans hr')
      exact hbelow above j below hbelow' condition' rules' hat

/-! ## Visits -/

variable (holds)

mutual

/-- The comparisons that are asked for the answer of a rule, with their addresses. -/
def visits : Rule → List (List Nat × Comparison)
  | .comparison c => [([], c)]
  | .group condition rules => visitsFrom condition 0 rules

/-- The comparisons that are asked for the answers of the children of a group, from the one with
    a given index on. -/
def visitsFrom (condition : Condition) (index : Nat) : List Rule → List (List Nat × Comparison)
  | [] => []
  | rule :: rules =>
    (visits rule).map (fun v => (index :: v.1, v.2)) ++
      if rule.answer holds = condition.decisive then [] else visitsFrom condition (index + 1) rules

end

/-- Asking one child after the other notes their visits up to the child that is decisive. -/
theorem run_evaluateListM {rules : List Rule}
    (h : ∀ r ∈ rules, ∀ log, (r.evaluateM (note holds)).run log =
      (r.answer holds, log ++ (r.visits holds).map Prod.snd))
    (condition : Condition) (index : Nat) (log : List Comparison) :
    (evaluateListM (note holds) condition rules).run log =
      (condition.join (rules.map (answer holds)),
        log ++ (visitsFrom holds condition index rules).map Prod.snd) := by
  induction rules generalizing index log with
  | nil =>
    rw [visitsFrom, List.map_nil, List.map_nil, List.append_nil]
    cases condition <;> rfl
  | cons r rules ih =>
    obtain ⟨hr, hrules⟩ := List.forall_mem_cons.1 h
    have hv : ((r.visits holds).map fun v => (index :: v.1, v.2)).map Prod.snd =
        (r.visits holds).map Prod.snd := by
      rw [List.map_map]
      rfl
    rw [evaluateListM, StateT.run_bind, hr, visitsFrom, List.map_append, hv, List.map_cons,
      Condition.join_cons]
    change StateT.run (if r.answer holds = condition.decisive then pure (r.answer holds)
      else evaluateListM (note holds) condition rules) (log ++ (r.visits holds).map Prod.snd) = _
    split
    · rw [List.map_nil, List.append_nil]
      rfl
    · rw [ih hrules (index + 1), List.append_assoc]

/-- **A run gives the answer and notes the visits.** -/
theorem run_evaluateM (rule : Rule) (log : List Comparison) :
    (rule.evaluateM (note holds)).run log =
      (rule.answer holds, log ++ (rule.visits holds).map Prod.snd) := by
  induction rule generalizing log with
  | comparison c => rfl
  | group condition rules ih =>
    cases rules with
    | nil =>
      rw [visits, visitsFrom, List.map_nil, List.append_nil]
      rfl
    | cons r rules =>
      rw [evaluateM, run_evaluateListM holds ih condition 0, visits,
        answer_group holds (List.cons_ne_nil r rules)]

variable {holds}

/-- A child of a group is visited where it would be on its own, unless one before it is
    decisive. -/
theorem mem_visitsFrom {condition : Condition} {index : Nat} {rules : List Rule}
    {address : List Nat} {c : Comparison} :
    (address, c) ∈ visitsFrom holds condition index rules ↔ ∃ i below r,
      address = (index + i) :: below ∧ rules[i]? = some r ∧ (below, c) ∈ r.visits holds ∧
        ∀ j earlier, j < i → rules[j]? = some earlier →
          earlier.answer holds ≠ condition.decisive := by
  induction rules generalizing index with
  | nil => simp [visitsFrom]
  | cons r rules ih =>
    rw [visitsFrom, List.mem_append]
    constructor
    · rintro (h | h)
      · obtain ⟨⟨below, c'⟩, hv, he⟩ := List.mem_map.1 h
        cases he
        exact ⟨0, below, r, rfl, rfl, hv, fun j _ hj => absurd hj (Nat.not_lt_zero j)⟩
      · split at h
        · cases h
        · next hd =>
          obtain ⟨i, below, r', rfl, hi, hv, hlt⟩ := ih.1 h
          refine ⟨i + 1, below, r', by rw [Nat.add_assoc, Nat.add_comm 1 i], hi, hv, ?_⟩
          rintro (_ | j) earlier hj he
          · cases he
            exact hd
          · exact hlt j earlier (Nat.lt_of_succ_lt_succ hj) he
    · rintro ⟨_ | i, below, r', rfl, hi, hv, hlt⟩
      · cases hi
        exact .inl (List.mem_map.2 ⟨(below, c), hv, rfl⟩)
      · have hd : r.answer holds ≠ condition.decisive := hlt 0 r (Nat.succ_pos i) rfl
        rw [if_neg hd]
        refine .inr (ih.2 ⟨i, below, r', by rw [Nat.add_assoc, Nat.add_comm 1 i], hi, hv, ?_⟩)
        exact fun j earlier hj he => hlt (j + 1) earlier (Nat.succ_lt_succ hj) he

/-- **What is visited are the comparisons at undecided addresses.** -/
theorem mem_visits_iff {rule : Rule} {address : List Nat} {c : Comparison} :
    (address, c) ∈ rule.visits holds ↔
      rule.at? address = some (.comparison c) ∧ rule.Undecided holds address := by
  induction rule generalizing address with
  | comparison d =>
    rw [visits, List.mem_singleton]
    constructor
    · intro h
      cases h
      exact ⟨rfl, undecided_nil _⟩
    · rintro ⟨hat, -⟩
      cases address with
      | nil =>
        cases hat
        rfl
      | cons index address =>
        rw [at?_comparison_cons] at hat
        cases hat
  | group condition rules ih =>
    rw [visits, mem_visitsFrom]
    constructor
    · rintro ⟨i, below, r, rfl, hi, hv, hlt⟩
      obtain ⟨hat, hu⟩ := (ih r (List.mem_of_getElem? hi)).1 hv
      rw [Nat.zero_add]
      exact ⟨at?_group_cons.2 ⟨r, hi, hat⟩, (undecided_cons hi).2 ⟨hlt, hu⟩⟩
    · rintro ⟨hat, hu⟩
      cases address with
      | nil => cases hat
      | cons i below =>
        obtain ⟨r, hi, hat⟩ := at?_group_cons.1 hat
        obtain ⟨hlt, hu⟩ := (undecided_cons hi).1 hu
        exact ⟨i, below, r, by rw [Nat.zero_add], hi,
          (ih r (List.mem_of_getElem? hi)).2 ⟨hat, hu⟩, hlt⟩

theorem pairwise_visitsFrom {rules : List Rule} (condition : Condition) (index : Nat)
    (h : ∀ r ∈ rules, (r.visits holds).Pairwise fun v w => Precedes v.1 w.1) :
    (visitsFrom holds condition index rules).Pairwise fun v w => Precedes v.1 w.1 := by
  induction rules generalizing index with
  | nil => exact .nil
  | cons r rules ih =>
    obtain ⟨hr, hrules⟩ := List.forall_mem_cons.1 h
    rw [visitsFrom, List.pairwise_append]
    refine ⟨List.pairwise_map.2 (hr.imp .inside), ?_, ?_⟩
    · split
      · exact .nil
      · exact ih (index + 1) hrules
    · rintro _ hv ⟨address, c⟩ hw
      obtain ⟨v, -, rfl⟩ := List.mem_map.1 hv
      split at hw
      · cases hw
      · obtain ⟨i, below, r', rfl, -⟩ := mem_visitsFrom.1 hw
        exact .sibling (by omega)

/-- **Comparisons are visited in the order in which they are written.** -/
theorem pairwise_visits (rule : Rule) :
    (rule.visits holds).Pairwise fun v w => Precedes v.1 w.1 := by
  induction rule with
  | comparison c => exact List.pairwise_singleton _ _
  | group condition rules ih => exact pairwise_visitsFrom condition 0 ih

variable (holds)

/-- **Asking ends early and exactly so.**  The answer of a rule is the one that it has when every
    comparison is asked, and the comparisons that are asked are those that no group above has
    been decided for, each of them once and in the order of the rule. -/
theorem evaluate_asked_exact (rule : Rule) :
    rule.evaluate holds = rule.answer holds ∧
      ∃ visits : List (List Nat × Comparison), rule.asked holds = visits.map Prod.snd ∧
        (visits.Pairwise fun v w => Precedes v.1 w.1) ∧ (visits.map Prod.fst).Nodup ∧
        ∀ address c, (address, c) ∈ visits ↔
          rule.at? address = some (.comparison c) ∧ rule.Undecided holds address := by
  refine ⟨evaluate_eq_answer holds rule, rule.visits holds, ?_, pairwise_visits rule, ?_,
    fun address c => mem_visits_iff⟩
  · rw [asked, run_evaluateM, List.nil_append]
  · rw [List.nodup_iff_pairwise_ne, List.pairwise_map]
    refine (pairwise_visits rule).imp ?_
    intro v w h he
    exact Precedes.irrefl (he ▸ h)

end Rule

end FilterRules
