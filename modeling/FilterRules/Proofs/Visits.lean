/-
  FilterRules — the log of a pass over a tree.

  A pass that goes through a node before its children and ends at the first failure leaves a log.

  * `Visits` says of a list that it goes through the nodes of a tree at some addresses, each once
    and in the order in which they are written, and `Records` of a log that it has the entries of
    such visits, of which each node makes one or none; there is one such log (`Records.unique`);
  * `Records.node`: the log of a tree is the entry of its root and then the logs of the children
    that are visited;
  * `reached` are the children that a pass goes to, and `LogStep` is what a pass writes at one
    node.  From it follows what the whole pass writes: all nodes if none fails
    (`records_of_passes`), and otherwise those up to the first failure
    (`records_of_firstFailure`).
-/
import Mathlib.Data.List.Sort
import FilterRules.Proofs.Preorder

namespace FilterRules.Preorder

open Rule (Precedes)

variable {α β ε : Type}

/-! ## Visits -/

/-- A list goes through the nodes of a tree at the addresses of some kind, in the order in which
    they are written. -/
structure Visits (children : α → List α) (Visited : List Nat → Prop) (root : α)
    (visits : List (List Nat × α)) : Prop where
  ordered : visits.Pairwise fun v w => Precedes v.1 w.1
  mem_iff : ∀ address node, (address, node) ∈ visits ↔
    descend children address root = some node ∧ Visited address

/-- A log has the entries of the nodes of a tree at the addresses of some kind, in the order in
    which they are written. -/
def Records (children : α → List α) (entry : α → Option ε) (Visited : List Nat → Prop) (root : α)
    (log : List ε) : Prop :=
  ∃ visits, Visits children Visited root visits ∧ log = visits.filterMap fun v => entry v.2

section
variable {children : α → List α} {Visited : List Nat → Prop} {root : α}

/-- There is one way to go through the nodes at the addresses of some kind. -/
theorem Visits.unique {visits visits' : List (List Nat × α)}
    (h : Visits children Visited root visits) (h' : Visits children Visited root visits') :
    visits = visits' := by
  have : Std.Irrefl fun v w : List Nat × α => Precedes v.1 w.1 := ⟨fun _ => Precedes.irrefl⟩
  have : Std.Antisymm fun v w : List Nat × α => Precedes v.1 w.1 :=
    ⟨fun _ _ h h' => absurd h' h.asymm⟩
  exact h.ordered.eq_of_mem_iff h'.ordered fun v =>
    (h.mem_iff v.1 v.2).trans (h'.mem_iff v.1 v.2).symm

/-- The tree and the addresses determine the log. -/
theorem Records.unique {entry : α → Option ε} {log log' : List ε}
    (h : Records children entry Visited root log)
    (h' : Records children entry Visited root log') : log = log' := by
  obtain ⟨visits, hv, rfl⟩ := h
  obtain ⟨visits', hv', rfl⟩ := h'
  rw [hv.unique hv']

end

/-- The visits below some nodes, one node after the other, seen from the node above. -/
def visitsBelow (below : Nat → α → List (List Nat × α)) (nodes : List α) :
    List (List Nat × α) :=
  nodes.zipIdx.flatMap fun c => (below c.2 c.1).map fun v => (c.2 :: v.1, v.2)

section
variable {below : Nat → α → List (List Nat × α)} {nodes : List α}

theorem mem_visitsBelow {v : List Nat × α} : v ∈ visitsBelow below nodes ↔
    ∃ i child w, nodes[i]? = some child ∧ w ∈ below i child ∧ v = (i :: w.1, w.2) := by
  simp only [visitsBelow, List.mem_flatMap, List.mem_map, List.mem_zipIdx_iff_getElem?]
  constructor
  · rintro ⟨⟨child, i⟩, hc, w, hw, rfl⟩
    exact ⟨i, child, w, hc, hw, rfl⟩
  · rintro ⟨i, child, w, hc, hw, rfl⟩
    exact ⟨(child, i), hc, w, hw, rfl⟩

theorem pairwise_visitsBelow (h : ∀ i child, nodes[i]? = some child →
    (below i child).Pairwise fun v w => Precedes v.1 w.1) :
    (visitsBelow below nodes).Pairwise fun v w => Precedes v.1 w.1 := by
  have hlt : nodes.zipIdx.Pairwise fun c d => c.2 < d.2 := by
    rw [← List.pairwise_map (f := Prod.snd) (R := (· < ·)), List.zipIdx_map_snd]
    exact List.pairwise_lt_range' 1
  rw [visitsBelow, List.pairwise_flatMap]
  refine ⟨fun ⟨child, i⟩ hc => ?_, hlt.imp fun hij v hv w hw => ?_⟩
  · exact List.pairwise_map.2 ((h i child (List.mk_mem_zipIdx_iff_getElem?.1 hc)).imp .inside)
  · obtain ⟨v, -, rfl⟩ := List.mem_map.1 hv
    obtain ⟨w, -, rfl⟩ := List.mem_map.1 hw
    exact .sibling hij

/-- The entries of the visits below some nodes are those of each, one after the other. -/
theorem filterMap_visitsBelow {entry : α → Option ε} {log : α → List ε}
    (h : ∀ i child, nodes[i]? = some child →
      log child = (below i child).filterMap fun v => entry v.2) :
    ((visitsBelow below nodes).filterMap fun v => entry v.2) = nodes.flatMap log := by
  calc ((visitsBelow below nodes).filterMap fun v => entry v.2)
      = nodes.zipIdx.flatMap fun c => (below c.2 c.1).filterMap fun v => entry v.2 := by
        simp only [visitsBelow, List.filterMap_flatMap, List.filterMap_map, Function.comp_def]
    _ = nodes.zipIdx.flatMap fun c => log c.1 :=
        List.flatMap_congr fun c hc => (h c.2 c.1 (List.mem_zipIdx_iff_getElem?.1 hc)).symm
    _ = nodes.flatMap log := by
        rw [← List.flatMap_map Prod.fst log, List.zipIdx_map_fst]

end

section
variable {children : α → List α} {Visited : List Nat → Prop} {root : α} {n : Nat}

/-- **The log of a tree is the entry of its root and the logs of the children visited.** -/
theorem Records.node {entry : α → Option ε} {log : α → List ε} (hroot : Visited [])
    (hbelow : ∀ i child, i < n → (children root)[i]? = some child →
      Records children entry (fun a => Visited (i :: a)) child (log child))
    (hrest : ∀ i child a, n ≤ i → (children root)[i]? = some child → ¬ Visited (i :: a)) :
    Records children entry Visited root
      ((entry root).toList ++ ((children root).take n).flatMap log) := by
  have htake (i : Nat) (child : α) : ((children root).take n)[i]? = some child ↔
      i < n ∧ (children root)[i]? = some child := by
    rw [List.getElem?_take, Option.ite_none_right_eq_some]
  choose! below hvisits hlog using hbelow
  refine ⟨([], root) :: visitsBelow below ((children root).take n), ⟨?_, ?_⟩, ?_⟩
  · refine List.pairwise_cons.2 ⟨fun v hv => ?_, pairwise_visitsBelow fun i child hc => ?_⟩
    · obtain ⟨i, child, w, -, -, rfl⟩ := mem_visitsBelow.1 hv
      exact .root
    · obtain ⟨hi, hc⟩ := (htake i child).1 hc
      exact (hvisits i child hi hc).ordered
  · rintro (_ | ⟨i, a⟩) node
    · simp [mem_visitsBelow, descend, hroot, eq_comm]
    · rw [List.mem_cons, or_iff_right (by simp), mem_visitsBelow, descend_cons]
      constructor
      · rintro ⟨_, child, w, hc, hv, he⟩
        cases he
        obtain ⟨hi, hc⟩ := (htake i child).1 hc
        obtain ⟨hd, hvis⟩ := ((hvisits i child hi hc).mem_iff w.1 w.2).1 hv
        exact ⟨⟨child, hc, hd⟩, hvis⟩
      · rintro ⟨⟨child, hc, hd⟩, hvis⟩
        have hi : i < n := Nat.lt_of_not_le fun h => hrest i child a h hc hvis
        exact ⟨i, child, (a, node), (htake i child).2 ⟨hi, hc⟩,
          ((hvisits i child hi hc).mem_iff a node).2 ⟨hd, hvis⟩, rfl⟩
  · have hlogs : ((visitsBelow below ((children root).take n)).filterMap fun v => entry v.2) =
        ((children root).take n).flatMap log :=
      filterMap_visitsBelow fun i child hc =>
        hlog i child ((htake i child).1 hc).1 ((htake i child).1 hc).2
    rw [List.filterMap_cons, hlogs]
    cases entry root <;> rfl

/-! ## Up to a failure -/

/-- An address is another one, or written before it. -/
def UpTo (address a : List Nat) : Prop := a = address ∨ Precedes a address

theorem upTo_nil {a : List Nat} : UpTo [] a ↔ a = [] := by
  refine ⟨?_, .inl⟩
  rintro (rfl | h)
  · rfl
  · cases h

theorem upTo_root (address : List Nat) : UpTo address [] := by
  cases address with
  | nil => exact .inl rfl
  | cons i address => exact .inr .root

theorem upTo_cons_iff {i j : Nat} {address a : List Nat} :
    UpTo (i :: address) (j :: a) ↔ j < i ∨ j = i ∧ UpTo address a := by
  constructor
  · rintro (h | h)
    · cases h
      exact .inr ⟨rfl, .inl rfl⟩
    · cases h with
      | sibling h => exact .inl h
      | inside h => exact .inr ⟨rfl, .inr h⟩
  · rintro (h | ⟨rfl, rfl | h⟩)
    · exact .inr (.sibling h)
    · exact .inl rfl
    · exact .inr (.inside h)

variable {Fails : α → Option String → RuleError.Cause → Prop}

/-- The first failure of a tree is that of a child, before which nothing fails. -/
theorem FirstFailure.child {index : Nat} {address : List Nat} {key : Option String}
    {cause : RuleError.Cause}
    (h : FirstFailure children Fails root (index :: address) key cause) :
    Passes Fails root ∧ ∃ child, (children root)[index]? = some child ∧
      FirstFailure children Fails child address key cause ∧
      ∀ j sibling, j < index → (children root)[j]? = some sibling →
        ∀ a node, descend children a sibling = some node → Passes Fails node := by
  obtain ⟨node, hn, hf⟩ := h.fails
  obtain ⟨child, hi, hn⟩ := descend_cons.1 hn
  refine ⟨h.earlier [] root .root rfl, child, hi, ⟨⟨node, hn, hf⟩, fun a m hp hm => ?_⟩, ?_⟩
  · exact h.earlier (index :: a) m (.inside hp) (descend_cons.2 ⟨child, hi, hm⟩)
  · intro j sibling hj hs a m hm
    exact h.earlier (j :: a) m (.sibling hj) (descend_cons.2 ⟨sibling, hs, hm⟩)

/-! ## Passes with a log -/

/-- The children that a pass goes to, the first one that fails being the last. -/
def reached (run : α → Except RuleError β) : List α → List α
  | [] => []
  | node :: nodes =>
    match run node with
    | .ok _ => node :: reached run nodes
    | .error _ => [node]

variable {run : α → Except RuleError β} {nodes : List α}

theorem reached_ok (h : ∀ a ∈ nodes, ∃ b, run a = .ok b) : reached run nodes = nodes := by
  induction nodes with
  | nil => rfl
  | cons node nodes ih =>
    obtain ⟨⟨b, hb⟩, hnodes⟩ := List.forall_mem_cons.1 h
    simp only [reached, hb, ih hnodes]

theorem reached_error {i : Nat} {child : α} {e : RuleError}
    (hlt : ∀ j a, j < i → nodes[j]? = some a → ∃ b, run a = .ok b)
    (hi : nodes[i]? = some child) (he : run child = .error e) :
    reached run nodes = nodes.take (i + 1) := by
  induction nodes generalizing i with
  | nil => cases hi
  | cons node nodes ih =>
    cases i with
    | zero =>
      cases hi
      simp only [reached, he, List.take_succ_cons, List.take_zero]
    | succ i =>
      obtain ⟨b, hb⟩ := hlt 0 node (Nat.succ_pos i) rfl
      have hlt' : ∀ j a, j < i → nodes[j]? = some a → ∃ b, run a = .ok b :=
        fun j a hj ha => hlt (j + 1) a (Nat.succ_lt_succ hj) ha
      simp only [reached, hb, List.take_succ_cons, ih hlt' hi]

/-- What a pass writes at one node: its entry, and behind it, unless the node fails, what it
    writes at the children that it goes to. -/
inductive LogStep (children : α → List α) (Fails : α → Option String → RuleError.Cause → Prop)
    (run : α → Except RuleError β) (entry : α → Option ε) (log : α → List ε) (node : α) : Prop
  | fails {key cause} : Fails node key cause → log node = (entry node).toList →
      LogStep children Fails run entry log node
  | passes : Passes Fails node →
      log node = (entry node).toList ++ (reached run (children node)).flatMap log →
      LogStep children Fails run entry log node

variable {entry : α → Option ε} {log : α → List ε}
  (founded : WellFounded fun child node => child ∈ children node)
  (step : ∀ node, Step children Fails run node)
  (logStep : ∀ node, LogStep children Fails run entry log node)

include founded step logStep

/-- **A pass in which no node fails leaves a log of all nodes.** -/
theorem records_of_passes (h : ∀ a node, descend children a root = some node → Passes Fails node) :
    Records children entry (fun _ => True) root (log root) := by
  induction root using founded.induction with | h root ih => ?_
  have hbelow : ∀ child ∈ children root, ∀ a node, descend children a child = some node →
      Passes Fails node := by
    intro child hc a node hn
    obtain ⟨i, hi⟩ := List.getElem?_of_mem hc
    exact h (i :: a) node (descend_cons.2 ⟨child, hi, hn⟩)
  rcases logStep root with ⟨hf, -⟩ | ⟨-, hl⟩
  · exact absurd hf (h [] root rfl _ _)
  · have hok : ∀ child ∈ children root, ∃ b, run child = .ok b := fun child hc =>
      (run_ok_iff founded step child).2 (hbelow child hc)
    have ht : (children root).take (children root).length = children root := List.take_length
    rw [hl, reached_ok hok, ← ht]
    refine Records.node trivial (fun i child _ hc => ?_) (fun i child a hi hc => ?_)
    · exact ih child (List.mem_of_getElem? hc) (hbelow child (List.mem_of_getElem? hc))
    · rw [List.getElem?_eq_none hi] at hc
      cases hc

/-- **A pass that fails leaves a log of the nodes up to the first failure.** -/
theorem records_of_firstFailure {address : List Nat} {key : Option String}
    {cause : RuleError.Cause} (h : FirstFailure children Fails root address key cause) :
    Records children entry (UpTo address) root (log root) := by
  induction address generalizing root with
  | nil =>
    obtain ⟨node, hn, hf⟩ := h.fails
    cases hn
    rcases logStep root with ⟨-, hl⟩ | ⟨hp, -⟩
    · have hr : Records children entry (UpTo []) root
          ((entry root).toList ++ ((children root).take 0).flatMap log) := by
        refine Records.node (upTo_root []) (fun i child hi _ => absurd hi (Nat.not_lt_zero i))
          (fun i child a _ _ hu => ?_)
        cases upTo_nil.1 hu
      rwa [List.take_zero, List.flatMap_nil, List.append_nil, ← hl] at hr
    · exact absurd hf (hp key cause)
  | cons index address ih =>
    obtain ⟨hp, child, hi, hc, hlt⟩ := h.child
    rcases logStep root with ⟨hf, -⟩ | ⟨-, hl⟩
    · exact absurd hf (hp _ _)
    · have hok : ∀ j sibling, j < index → (children root)[j]? = some sibling →
          ∃ b, run sibling = .ok b := fun j sibling hj hs =>
        (run_ok_iff founded step sibling).2 (hlt j sibling hj hs)
      obtain ⟨e, he⟩ : ∃ e, run child = .error e := by
        cases hr : run child with
        | error e => exact ⟨e, rfl⟩
        | ok b =>
          obtain ⟨node, hn, hf⟩ := hc.fails
          exact absurd hf ((run_ok_iff founded step child).1 ⟨b, hr⟩ address node hn key cause)
      rw [hl, reached_error hok hi he]
      refine Records.node (upTo_root _) (fun j sibling hj hs => ?_) (fun j sibling a hj _ hu => ?_)
      · simp only [upTo_cons_iff]
        rcases Nat.lt_succ_iff_lt_or_eq.1 hj with hj | rfl
        · simp only [hj, true_or]
          exact records_of_passes founded step logStep (hlt j sibling hj hs)
        · rw [hi, Option.some.injEq] at hs
          subst hs
          simp only [Nat.lt_irrefl, false_or, true_and]
          exact ih hc
      · rw [upTo_cons_iff] at hu
        omega

end

end FilterRules.Preorder
