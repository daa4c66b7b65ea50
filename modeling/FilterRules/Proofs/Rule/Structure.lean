/-
  FilterRules — the structure of rules.

  * `Rule.rec_group`: induction over a rule, in which a group may rely on all of
    its children, and `Rule.children_founded`, the same for any tree of `children`;
  * `Rule.comparisons` are the comparisons of a rule from left to right, and
    `Rule.Uses` tells whether a rule has one by some operator;
  * `Rule.Rel` says that two rules are trees of one shape, with comparisons that
    are in some relation;
  * `Rule.at?` is the node at an address, the list of the places of the children
    that lead to it;
  * `Precedes` orders addresses as the nodes are written: a group before its
    children, and a child with all below it before the next one.  Of two
    addresses one precedes the other (`precedes_trichotomy`), not both
    (`Precedes.asymm`), and none precedes itself (`Precedes.irrefl`).
-/
import FilterRules.Rule.Basic
import Mathlib.Data.List.Forall2

namespace FilterRules.Rule

/-! ## Induction -/

/-- Induction over a rule: a group may rely on each of its children. -/
@[elab_as_elim, induction_eliminator]
theorem rec_group {motive : Rule → Prop} (comparison : ∀ c, motive (.comparison c))
    (group : ∀ condition rules, (∀ r ∈ rules, motive r) → motive (.group condition rules))
    (rule : Rule) : motive rule :=
  @Rule.rec motive (fun rules => ∀ r ∈ rules, motive r) comparison group
    (fun _ h => absurd h List.not_mem_nil)
    (fun _ _ hr hrs => List.forall_mem_cons.2 ⟨hr, hrs⟩) rule

/-- The children of a rule. -/
def children : Rule → List Rule
  | .comparison _ => []
  | .group _ rules => rules

theorem children_founded : WellFounded fun child rule : Rule => child ∈ rule.children := by
  refine ⟨fun rule => ?_⟩
  induction rule with
  | comparison c => exact ⟨_, fun child h => absurd h List.not_mem_nil⟩
  | group condition rules ih => exact ⟨_, ih⟩

/-! ## Comparisons -/

mutual

/-- The comparisons of a rule, from left to right. -/
def comparisons : Rule → List Comparison
  | .comparison c => [c]
  | .group _ rules => comparisonsList rules

/-- The comparisons of some rules, one rule after the other. -/
def comparisonsList : List Rule → List Comparison
  | [] => []
  | rule :: rules => rule.comparisons ++ comparisonsList rules

end

theorem comparisonsList_eq (rules : List Rule) :
    comparisonsList rules = rules.flatMap comparisons := by
  induction rules with
  | nil => rfl
  | cons rule rules ih => rw [comparisonsList, ih, List.flatMap_cons]

theorem mem_comparisons_group {c : Comparison} {condition : Condition} {rules : List Rule} :
    c ∈ (group condition rules).comparisons ↔ ∃ r ∈ rules, c ∈ r.comparisons := by
  rw [comparisons, comparisonsList_eq, List.mem_flatMap]

/-- A rule has a comparison by an operator. -/
def Uses (rule : Rule) (operator : Operator) : Prop :=
  ∃ c ∈ rule.comparisons, c.operator? = some operator

theorem uses_comparison {c : Comparison} {operator : Operator} :
    (comparison c).Uses operator ↔ c.operator? = some operator := by
  simp [Uses, comparisons]

theorem uses_group {condition : Condition} {rules : List Rule} {operator : Operator} :
    (group condition rules).Uses operator ↔ ∃ r ∈ rules, r.Uses operator := by
  constructor
  · rintro ⟨c, hc, ho⟩
    obtain ⟨r, hr, hc⟩ := mem_comparisons_group.1 hc
    exact ⟨r, hr, c, hc, ho⟩
  · rintro ⟨r, hr, c, hc, ho⟩
    exact ⟨c, mem_comparisons_group.2 ⟨r, hr, hc⟩, ho⟩

/-! ## Trees of one shape -/

/-- Two rules are trees of one shape with the same conditions, and their comparisons are in a
    relation, place by place. -/
inductive Rel (R : Comparison → Comparison → Prop) : Rule → Rule → Prop
  | comparison {c d} : R c d → Rel R (.comparison c) (.comparison d)
  | group {condition rules rules'} : List.Forall₂ (Rel R) rules rules' →
      Rel R (.group condition rules) (.group condition rules')

theorem exists_of_mem_right {α β : Type} {R : α → β → Prop} {as : List α} {bs : List β} {b : β}
    (h : List.Forall₂ R as bs) (hb : b ∈ bs) : ∃ a ∈ as, R a b := by
  induction h with
  | nil => cases hb
  | cons hr _ ih =>
    rcases List.mem_cons.1 hb with rfl | hb
    · exact ⟨_, by simp, hr⟩
    · obtain ⟨a, ha, hr⟩ := ih hb
      exact ⟨a, List.mem_cons_of_mem _ ha, hr⟩

theorem forall₂_of_common {α β γ : Type} {P : α → γ → Prop} {Q : β → γ → Prop} {R : α → β → Prop}
    {as : List α} {bs : List β} {cs : List γ} (hP : List.Forall₂ P as cs)
    (hQ : List.Forall₂ Q bs cs) (h : ∀ a ∈ as, ∀ b, ∀ c ∈ cs, P a c → Q b c → R a b) :
    List.Forall₂ R as bs := by
  induction hP generalizing bs with
  | nil =>
    cases hQ
    exact .nil
  | cons hp _ ih =>
    cases hQ with
    | cons hq hQ =>
      refine .cons (h _ (by simp) _ _ (by simp) hp hq) (ih hQ fun a ha b c hc => ?_)
      exact h a (List.mem_cons_of_mem _ ha) b c (List.mem_cons_of_mem _ hc)

section
variable {R S : Comparison → Comparison → Prop} {rule rule' : Rule}

theorem depths_congr {rules rules' : List Rule}
    (h : List.Forall₂ (fun r r' : Rule => r.depth = r'.depth) rules rules') :
    depths rules = depths rules' := by
  induction h with
  | nil => rfl
  | cons h _ ih => rw [depths, depths, h, ih]

theorem Rel.depth (h : Rel R rule rule') : rule.depth = rule'.depth := by
  induction rule generalizing rule' with
  | comparison c =>
    cases h
    rfl
  | group condition rules ih =>
    cases h with
    | group h =>
      have hd := ((List.forall₂_and_left _ _).2 ⟨ih, h⟩).imp fun r r' h => h.1 h.2
      rw [Rule.depth, Rule.depth, depths_congr hd]

theorem Rel.imp (hi : ∀ c ∈ rule.comparisons, ∀ d, R c d → S c d) (h : Rel R rule rule') :
    Rel S rule rule' := by
  induction rule generalizing rule' with
  | comparison c =>
    cases h with
    | comparison h => exact .comparison (hi c (List.mem_singleton.2 rfl) _ h)
  | group condition rules ih =>
    cases h with
    | group h =>
      have hr : ∀ r ∈ rules, ∀ r', Rel R r r' → Rel S r r' := fun r hm r' =>
        ih r hm fun c hc => hi c (mem_comparisons_group.2 ⟨r, hm, hc⟩)
      exact .group (((List.forall₂_and_left _ _).2 ⟨hr, h⟩).imp fun r r' h => h.1 r' h.2)

end

/-! ## Addresses -/

/-- The node at an address. -/
def at? : (address : List Nat) → Rule → Option Rule
  | [], rule => some rule
  | index :: address, rule => (rule.child? index).bind (at? address)

theorem at?_comparison_cons (c : Comparison) (index : Nat) (address : List Nat) :
    (comparison c).at? (index :: address) = none := rfl

theorem at?_group_cons {condition : Condition} {rules : List Rule} {index : Nat}
    {address : List Nat} {node : Rule} :
    (group condition rules).at? (index :: address) = some node ↔
      ∃ r, rules[index]? = some r ∧ r.at? address = some node := by
  simp only [at?, child?, Option.bind_eq_some_iff]

theorem child?_eq (rule : Rule) (index : Nat) : rule.child? index = rule.children[index]? := by
  cases rule <;> rfl

/-- Of two addresses, the first one is written earlier. -/
inductive Precedes : List Nat → List Nat → Prop
  | root {j b} : Precedes [] (j :: b)
  | sibling {i j a b} : i < j → Precedes (i :: a) (j :: b)
  | inside {i a b} : Precedes a b → Precedes (i :: a) (i :: b)

theorem Precedes.irrefl {address : List Nat} : ¬ Precedes address address := by
  induction address with
  | nil =>
    intro h
    cases h
  | cons index address ih =>
    intro h
    cases h with
    | sibling h => exact Nat.lt_irrefl index h
    | inside h => exact ih h

theorem Precedes.asymm {a b : List Nat} (h : Precedes a b) : ¬ Precedes b a := by
  induction h with
  | root =>
    intro h'
    cases h'
  | sibling h =>
    intro h'
    cases h' with
    | sibling h' => exact Nat.lt_asymm h h'
    | inside => exact Nat.lt_irrefl _ h
  | inside _ ih =>
    intro h'
    cases h' with
    | sibling h => exact Nat.lt_irrefl _ h
    | inside h' => exact ih h'

theorem precedes_trichotomy : ∀ a b : List Nat, Precedes a b ∨ a = b ∨ Precedes b a
  | [], [] => .inr (.inl rfl)
  | [], _ :: _ => .inl .root
  | _ :: _, [] => .inr (.inr .root)
  | i :: a, j :: b => by
    rcases Nat.lt_trichotomy i j with h | rfl | h
    · exact .inl (.sibling h)
    · rcases precedes_trichotomy a b with h | rfl | h
      · exact .inl (.inside h)
      · exact .inr (.inl rfl)
      · exact .inr (.inr (.inside h))
    · exact .inr (.inr (.sibling h))

end FilterRules.Rule
