/-
  FilterRules — the first failure in a tree.

  Rules are read, checked and lowered in one way: a node before its children, and the
  children from left to right, up to the first failure.

  * `collect` goes through the children of a node; `collect_ok_iff`, `collect_total_iff`,
    `collect_map` and `collect_error` say what it gives;
  * `place` is the path of an error that is found at an address;
  * `descend` is the node at an address and `FirstFailure` a failing node that no failing
    node precedes, of which there is one at most (`FirstFailure.unique`);
  * `Step` is what such a pass does at one node.  From it follows what the whole pass does:
    it has a result if no node fails (`run_ok_iff`), and otherwise the error of the first
    failure (`run_error_iff`).
-/
import Mathlib.Data.List.Forall2
import FilterRules.Proofs.Rule.Structure
import FilterRules.Rule.Error

namespace FilterRules

/-! ## Computations that may fail -/

theorem map_eq_ok_iff {ε α β : Type} {f : α → β} {x : Except ε α} {b : β} :
    x.map f = .ok b ↔ ∃ a, x = .ok a ∧ b = f a := by
  cases x <;> simp [Except.map, eq_comm]

theorem map_eq_error_iff {ε α β : Type} {f : α → β} {x : Except ε α} {e : ε} :
    x.map f = .error e ↔ x = .error e := by
  cases x <;> simp [Except.map]

namespace Preorder

open Rule (Precedes precedes_trichotomy)

/-! ## Places -/

/-- The path from the root to the node at an address, and on to a key of it, if there is one. -/
def place (address : List Nat) (key : Option String) : String :=
  ".".intercalate (address.map RuleError.childSegment ++ key.toList)

theorem place_nil (key : Option String) : place [] key = key.getD "" := by
  cases key <;> simp [place]

theorem childSegment_ne (index : Nat) : RuleError.childSegment index ≠ "" := by
  simp [RuleError.childSegment]

theorem place_cons (index : Nat) (address : List Nat) (key : Option String) :
    place (index :: address) key =
      if address = [] ∧ key = none then RuleError.childSegment index
      else RuleError.childSegment index ++ "." ++ place address key := by
  cases hs : address.map RuleError.childSegment ++ key.toList with
  | nil =>
    have h : address = [] ∧ key = none := by simpa using hs
    simp [place, h]
  | cons segment rest =>
    have h : ¬ (address = [] ∧ key = none) := by
      rintro ⟨rfl, rfl⟩
      cases hs
    rw [if_neg h, place, place, List.map_cons, List.cons_append, hs, String.intercalate_cons_cons]

theorem place_ne {address : List Nat} {key : Option String} (hk : key ≠ some "")
    (h : ¬ (address = [] ∧ key = none)) : place address key ≠ "" := by
  cases address with
  | nil =>
    cases key with
    | none => exact absurd ⟨rfl, rfl⟩ h
    | some k => simpa [place_nil] using hk
  | cons index address =>
    rw [place_cons]
    split <;> simp [childSegment_ne]

/-- An error seen from the group above has the path with one more step. -/
theorem withinChild_place {key : Option String} (hk : key ≠ some "") (index : Nat)
    (address : List Nat) (cause : RuleError.Cause) :
    RuleError.withinChild index ⟨place address key, cause⟩ =
      ⟨place (index :: address) key, cause⟩ := by
  rw [RuleError.withinChild, RuleError.within, place_cons]
  by_cases h : address = [] ∧ key = none
  · obtain ⟨rfl, rfl⟩ := h
    simp [place_nil]
  · simp only [if_neg (place_ne hk h), if_neg h]

/-! ## One child after the other -/

section
variable {α β : Type} {run : α → Except RuleError β}

/-- What some children give, from the one with a given index on; the first error ends it. -/
def collect (run : α → Except RuleError β) (index : Nat) : List α → Except RuleError (List β)
  | [] => .ok []
  | child :: children =>
    match run child with
    | .ok b => (collect run (index + 1) children).map (b :: ·)
    | .error e => .error (e.withinChild index)

theorem collect_ok_iff {index : Nat} {children : List α} {bs : List β} :
    collect run index children = .ok bs ↔ List.Forall₂ (fun a b => run a = .ok b) children bs := by
  induction children generalizing index bs with
  | nil => simp [collect, eq_comm]
  | cons child children ih =>
    rw [collect, List.forall₂_cons_left_iff]
    cases run child with
    | error e => simp
    | ok b =>
      simp only [map_eq_ok_iff, ih, Except.ok.injEq]
      constructor
      · rintro ⟨bs, hbs, rfl⟩
        exact ⟨b, bs, rfl, hbs, rfl⟩
      · rintro ⟨_, bs, rfl, hbs, rfl⟩
        exact ⟨bs, hbs, rfl⟩

theorem collect_total_iff (index : Nat) {children : List α} :
    (∃ bs, collect run index children = .ok bs) ↔ ∀ a ∈ children, ∃ b, run a = .ok b := by
  induction children generalizing index with
  | nil => simp [collect]
  | cons child children ih =>
    rw [collect, List.forall_mem_cons, ← ih (index + 1)]
    cases run child with
    | error e => simp
    | ok b => simp [map_eq_ok_iff]

/-- If each child and its image give the same up to a map, then so do all of them. -/
theorem collect_map {α' γ : Type} {run' : α' → Except RuleError γ} {m : α → α'} {f : β → γ}
    {children : List α} (h : ∀ a ∈ children, run' (m a) = (run a).map f) (index : Nat) :
    collect run' index (children.map m) = (collect run index children).map (List.map f) := by
  induction children generalizing index with
  | nil => rfl
  | cons child children ih =>
    obtain ⟨hc, hcs⟩ := List.forall_mem_cons.1 h
    rw [List.map_cons, collect, collect, hc]
    cases run child with
    | error e => rfl
    | ok b =>
      simp only [Except.map, ih hcs]
      cases collect run (index + 1) children <;> rfl

/-- An error is that of the first child that has one. -/
theorem collect_error {index : Nat} {children : List α} {e : RuleError}
    (h : collect run index children = .error e) :
    ∃ (i : Nat) (a : α) (e' : RuleError), children[i]? = some a ∧ run a = .error e' ∧
      e = e'.withinChild (index + i) ∧
      ∀ (j : Nat) (a' : α), j < i → children[j]? = some a' → ∃ b, run a' = .ok b := by
  induction children generalizing index with
  | nil => cases h
  | cons child children ih =>
    rw [collect] at h
    cases hc : run child with
    | error e' =>
      rw [hc] at h
      cases h
      exact ⟨0, child, e', rfl, hc, rfl, fun j _ hj => absurd hj (Nat.not_lt_zero j)⟩
    | ok b =>
      rw [hc] at h
      obtain ⟨i, a, e', hi, ha, rfl, hlt⟩ := ih (map_eq_error_iff.1 h)
      refine ⟨i + 1, a, e', hi, ha, by rw [Nat.add_assoc, Nat.add_comm 1 i], ?_⟩
      rintro (_ | j) a' hj ha'
      · cases ha'
        exact ⟨b, hc⟩
      · exact hlt j a' (Nat.lt_of_succ_lt_succ hj) ha'

end

/-! ## Trees -/

section
variable {α : Type}

/-- The node at an address of a tree. -/
def descend (children : α → List α) : (address : List Nat) → α → Option α
  | [], node => some node
  | index :: address, node => (children node)[index]?.bind (descend children address)

theorem descend_cons {children : α → List α} {index : Nat} {address : List Nat} {root node : α} :
    descend children (index :: address) root = some node ↔
      ∃ child, (children root)[index]? = some child ∧
        descend children address child = some node := by
  rw [descend, Option.bind_eq_some_iff]

variable (children : α → List α) (Fails : α → Option String → RuleError.Cause → Prop)

/-- A node does not fail. -/
def Passes (node : α) : Prop := ∀ key cause, ¬ Fails node key cause

/-- The node at an address fails, at a key or as a whole, and no node before it does. -/
structure FirstFailure (root : α) (address : List Nat) (key : Option String)
    (cause : RuleError.Cause) : Prop where
  fails : ∃ node, descend children address root = some node ∧ Fails node key cause
  earlier : ∀ a node, Precedes a address → descend children a root = some node →
    Passes Fails node

variable {children Fails}

/-- If a node fails in one way only, then so does a tree. -/
theorem FirstFailure.unique
    (hu : ∀ node k k' c c', Fails node k c → Fails node k' c' → k = k' ∧ c = c')
    {root : α} {a b : List Nat} {key key' : Option String} {cause cause' : RuleError.Cause}
    (h : FirstFailure children Fails root a key cause)
    (h' : FirstFailure children Fails root b key' cause') :
    a = b ∧ key = key' ∧ cause = cause' := by
  obtain ⟨node, hn, hf⟩ := h.fails
  obtain ⟨node', hn', hf'⟩ := h'.fails
  rcases precedes_trichotomy a b with hp | rfl | hp
  · exact absurd hf (h'.earlier a node hp hn key cause)
  · rw [hn, Option.some.injEq] at hn'
    subst hn'
    exact ⟨rfl, hu _ _ _ _ _ hf hf'⟩
  · exact absurd hf' (h.earlier b node' hp hn' key' cause')

/-- The first failure below a child is that of the tree, if the node passes and all that is
    below the children before it does. -/
theorem FirstFailure.of_child {root child : α} {index : Nat} (hp : Passes Fails root)
    (hi : (children root)[index]? = some child)
    (hlt : ∀ j sibling, j < index → (children root)[j]? = some sibling →
      ∀ address node, descend children address sibling = some node → Passes Fails node)
    {address : List Nat} {key : Option String} {cause : RuleError.Cause}
    (h : FirstFailure children Fails child address key cause) :
    FirstFailure children Fails root (index :: address) key cause := by
  obtain ⟨node, hn, hf⟩ := h.fails
  refine ⟨⟨node, descend_cons.2 ⟨child, hi, hn⟩, hf⟩, fun a m hpre hm => ?_⟩
  cases hpre with
  | root =>
    cases hm
    exact hp
  | sibling hj =>
    obtain ⟨sibling, hs, hm⟩ := descend_cons.1 hm
    exact hlt _ sibling hj hs _ m hm
  | inside hpre =>
    obtain ⟨sibling, hs, hm⟩ := descend_cons.1 hm
    rw [hi, Option.some.injEq] at hs
    subst hs
    exact h.earlier _ m hpre hm

/-! ## Passes -/

variable {β : Type}

/-- What a pass over a tree does at one node: the node fails and that is the error, or the
    pass goes through the children and makes a result of theirs. -/
inductive Step (children : α → List α) (Fails : α → Option String → RuleError.Cause → Prop)
    (run : α → Except RuleError β) (node : α) : Prop
  | fails {key cause} : Fails node key cause → key ≠ some "" →
      run node = .error ⟨key.getD "", cause⟩ → Step children Fails run node
  | passes (result : List β → β) : Passes Fails node →
      run node = (collect run 0 (children node)).map result → Step children Fails run node

variable {run : α → Except RuleError β}
  (founded : WellFounded fun child node => child ∈ children node)
  (step : ∀ node, Step children Fails run node)

include founded step

/-- **A pass has a result if and only if no node fails.** -/
theorem run_ok_iff (root : α) : (∃ b, run root = .ok b) ↔
    ∀ address node, descend children address root = some node → Passes Fails node := by
  induction root using founded.induction with | h root ih => ?_
  rcases step root with ⟨hf, -, hr⟩ | ⟨_, hp, hr⟩
  · rw [hr]
    constructor
    · rintro ⟨b, hb⟩
      cases hb
    · exact fun h => absurd hf (h [] root rfl _ _)
  · rw [hr]
    constructor
    · rintro ⟨b, hb⟩ (_ | ⟨index, address⟩) node hn
      · cases hn
        exact hp
      · obtain ⟨bs, hbs, -⟩ := map_eq_ok_iff.1 hb
        obtain ⟨child, hi, hn⟩ := descend_cons.1 hn
        have hm : child ∈ children root := List.mem_of_getElem? hi
        exact (ih child hm).1 ((collect_total_iff 0).1 ⟨bs, hbs⟩ child hm) address node hn
    · intro h
      have hc : ∀ child ∈ children root, ∃ b, run child = .ok b := by
        intro child hm
        obtain ⟨index, hi⟩ := List.getElem?_of_mem hm
        exact (ih child hm).2 fun address node hn =>
          h (index :: address) node (descend_cons.2 ⟨child, hi, hn⟩)
      obtain ⟨bs, hbs⟩ := (collect_total_iff 0).2 hc
      exact ⟨_, map_eq_ok_iff.2 ⟨bs, hbs, rfl⟩⟩

/-- The error of a pass is its first failure. -/
theorem run_error {root : α} {e : RuleError} (h : run root = .error e) :
    ∃ address key cause, FirstFailure children Fails root address key cause ∧
      key ≠ some "" ∧ e = ⟨place address key, cause⟩ := by
  induction root using founded.induction generalizing e with | h root ih => ?_
  rcases step root with ⟨hf, hk, hr⟩ | ⟨_, hp, hr⟩
  · rw [hr] at h
    cases h
    refine ⟨[], _, _, ⟨⟨root, rfl, hf⟩, ?_⟩, hk, by rw [place_nil]⟩
    intro a node hpre
    cases hpre
  · rw [hr, map_eq_error_iff] at h
    obtain ⟨i, child, e', hi, hc, rfl, hlt⟩ := collect_error h
    obtain ⟨address, key, cause, hf, hk, rfl⟩ := ih child (List.mem_of_getElem? hi) hc
    refine ⟨i :: address, key, cause, ?_, hk, by rw [Nat.zero_add, withinChild_place hk]⟩
    refine hf.of_child hp hi fun j sibling hj hs => ?_
    exact (run_ok_iff founded step sibling).1 (hlt j sibling hj hs)

/-- **A pass fails at the first failure.** -/
theorem run_error_iff
    (hu : ∀ node k k' c c', Fails node k c → Fails node k' c' → k = k' ∧ c = c')
    {root : α} {e : RuleError} : run root = .error e ↔
      ∃ address key cause, FirstFailure children Fails root address key cause ∧
        e = ⟨place address key, cause⟩ := by
  constructor
  · intro h
    obtain ⟨address, key, cause, hf, -, he⟩ := run_error founded step h
    exact ⟨address, key, cause, hf, he⟩
  · rintro ⟨address, key, cause, hf, rfl⟩
    cases hr : run root with
    | ok b =>
      obtain ⟨node, hn, hfails⟩ := hf.fails
      exact absurd hfails ((run_ok_iff founded step root).1 ⟨b, hr⟩ address node hn key cause)
    | error e =>
      obtain ⟨address', key', cause', hf', -, rfl⟩ := run_error founded step hr
      obtain ⟨rfl, rfl, rfl⟩ := hf.unique hu hf'
      rfl

end

end Preorder

end FilterRules
