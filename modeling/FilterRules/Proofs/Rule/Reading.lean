/-
  FilterRules — what is read as a rule.

  A node of a rule is any JSON value that stands where a rule may stand: the value that is
  read, and the items under the key `rules` of a node with a key `condition`.

  * `Json.subnodes` are the nodes below a node, and `Json.Offends` says at which key a node is
    no rule, and why; a node offends in one way at most (`Offends.unique`);
  * `readNode_offends` and `readNode_step`: reading a node finds its offence, and otherwise
    reads the nodes below it;
  * `readLogged_eq`: reading a rule or no rule is reading a node, with a report if it fails;
  * `ofJson_first_offence`: what is read, `null` and the empty object apart, is a rule if no
    node offends, and else the error is that of the first node that does.
-/
import FilterRules.Proofs.Json.Structure
import FilterRules.Proofs.Preorder
import FilterRules.Rule.Reader

namespace FilterRules

/-! ## Nodes -/

namespace Json

/-- The nodes below a node: a group has those under its key `rules`. -/
def subnodes : Json → List Json
  | .object ms =>
    match Members.find? ms "condition", Members.find? ms "rules" with
    | some _, some (.array items) => items
    | _, _ => []
  | _ => []

/-- What may stand under `field` and `operator`: nothing, `null` or a string. -/
def IsName : Option Json → Prop
  | none | some .null | some (.string _) => True
  | _ => False

/-- What may stand under `rules`: nothing, `null` or an array. -/
def IsList : Option Json → Prop
  | none | some .null | some (.array _) => True
  | _ => False

/-- A node is no rule, as a whole or because of what stands under a key. -/
inductive Offends : Json → Option String → RuleError.Cause → Prop
  | shape {node} : (∀ ms, node ≠ .object ms) → Offends node none (.malformed .rule)
  | noKey {ms : Members} : ms.find? "condition" = none → ms.find? "operator" = none →
      Offends (.object ms) none .noFilter
  | condition {ms : Members} {value} : ms.find? "condition" = some value →
      (∀ name, value ≠ .string name) →
      Offends (.object ms) (some "condition") (.malformed .condition)
  | unknownCondition {ms : Members} {name} : ms.find? "condition" = some (.string name) →
      name ≠ "AND" → name ≠ "OR" →
      Offends (.object ms) (some "condition") (.unknownCondition name)
  | rules {ms : Members} {name} : ms.find? "condition" = some (.string name) →
      name = "AND" ∨ name = "OR" → ¬ IsList (ms.find? "rules") →
      Offends (.object ms) (some "rules") (.malformed .rules)
  | field {ms : Members} {value} : ms.find? "condition" = none →
      ms.find? "operator" = some value → ¬ IsName (ms.find? "field") →
      Offends (.object ms) (some "field") (.malformed .field)
  | operator {ms : Members} {value} : ms.find? "condition" = none →
      ms.find? "operator" = some value → IsName (ms.find? "field") →
      ¬ IsName (some value) →
      Offends (.object ms) (some "operator") (.malformed .operator)

theorem Members.mem_of_find? {ms : Members} {key : String} {value : Json}
    (h : ms.find? key = some value) : (key, value) ∈ ms := by
  obtain ⟨before, after, rfl, -⟩ := List.lookup_eq_some_iff.1 h
  simp

theorem mem_subnodes {node sub : Json} (h : sub ∈ node.subnodes) :
    ∃ ms items, node = .object ms ∧ ("rules", .array items) ∈ ms ∧ sub ∈ items := by
  unfold subnodes at h
  split at h
  case h_1 ms =>
    split at h
    case h_1 items _ hr => exact ⟨ms, items, rfl, Members.mem_of_find? hr, h⟩
    case h_2 => cases h
  case h_2 => cases h

/-- No node is below itself. -/
theorem subnodes_founded : WellFounded fun sub node : Json => sub ∈ node.subnodes := by
  -- the nodes below an object are items of an array in it, so arrays answer for their items
  have h (node : Json) : Acc (fun sub node : Json => sub ∈ node.subnodes) node ∧
      ∀ items, node = .array items →
        ∀ item ∈ items, Acc (fun sub node => sub ∈ node.subnodes) item := by
    induction node with
    | object ms ih =>
      refine ⟨⟨_, fun sub hs => ?_⟩, fun _ he => by cases he⟩
      obtain ⟨_, items, he, hm, hi⟩ := mem_subnodes hs
      cases he
      exact (ih _ hm).2 items rfl sub hi
    | array items ih =>
      refine ⟨⟨_, fun sub hs => absurd hs List.not_mem_nil⟩, fun _ he item hi => ?_⟩
      cases he
      exact (ih item hi).1
    | null | bool | number | string =>
      exact ⟨⟨_, fun sub hs => absurd hs List.not_mem_nil⟩, fun _ he => by cases he⟩
  exact ⟨fun node => (h node).1⟩

end Json

/-! ## The parts of a node -/

open Json (Members IsName IsList)

section
variable {ms : Members}

theorem stringMember_ok_iff {key s : String} {expected : Expected} :
    stringMember ms key expected = .ok s ↔ ms.find? key = some (.string s) ∨
      s = "" ∧ (ms.find? key = none ∨ ms.find? key = some .null) := by
  unfold stringMember
  cases ms.find? key with
  | none => simp [eq_comm]
  | some value => cases value <;> simp [eq_comm]

theorem stringMember_total {key : String} (expected : Expected) (h : IsName (ms.find? key)) :
    ∃ s, stringMember ms key expected = .ok s := by
  unfold stringMember
  cases hv : ms.find? key with
  | none => exact ⟨_, rfl⟩
  | some value =>
    rw [hv] at h
    cases value with
    | null | string => exact ⟨_, rfl⟩
    | _ => exact h.elim

theorem stringMember_error {key : String} (expected : Expected) (h : ¬ IsName (ms.find? key)) :
    stringMember ms key expected = .error ⟨key, .malformed expected⟩ := by
  unfold stringMember
  cases hv : ms.find? key with
  | none => exact absurd (hv ▸ trivial) h
  | some value =>
    cases value with
    | null | string => exact absurd (hv ▸ trivial) h
    | _ => rfl

theorem conditionMember_total {name : String} (h : ms.find? "condition" = some (.string name))
    (hn : name = "AND" ∨ name = "OR") : ∃ condition, conditionMember ms = .ok condition := by
  unfold conditionMember
  rw [h]
  rcases hn with rfl | rfl
  · exact ⟨.and, rfl⟩
  · exact ⟨.or, rfl⟩

theorem ofMembers_ok_iff {c : Comparison} : Comparison.ofMembers ms = .ok c ↔
    stringMember ms "field" .field = .ok c.field ∧
      stringMember ms "operator" .operator = .ok c.operatorName ∧
      c.value = (ms.find? "value").getD .null := by
  obtain ⟨field, operatorName, value⟩ := c
  unfold Comparison.ofMembers
  cases stringMember ms "field" .field with
  | error e => simp [bind, Except.bind]
  | ok s =>
    cases stringMember ms "operator" .operator with
    | error e => simp [bind, Except.bind]
    | ok t => simp [bind, Except.bind, pure, Except.pure, eq_comm]

theorem ofMembers_total (hf : IsName (ms.find? "field")) (ho : IsName (ms.find? "operator")) :
    ∃ c, Comparison.ofMembers ms = .ok c := by
  obtain ⟨field, hfield⟩ := stringMember_total .field hf
  obtain ⟨name, hname⟩ := stringMember_total .operator ho
  exact ⟨⟨field, name, (ms.find? "value").getD .null⟩, ofMembers_ok_iff.2 ⟨hfield, hname, rfl⟩⟩

end

/-! ## Reading a node -/

namespace Rule

variable {ms : Members}

theorem readItems_result (index : Nat) (items : List Json) :
    (readItems index items).result =
      Preorder.collect (fun node => (readNode node).result) index items := by
  induction items generalizing index with
  | nil => rfl
  | cons item items ih =>
    rw [readItems, Preorder.collect, Logged.result_bind, Logged.mapError]
    cases (readNode item).result with
    | error e => rfl
    | ok rule =>
      change (_ >>= _ : Logged (List Rule)).result = _
      rw [Logged.result_bind, ih]
      cases Preorder.collect (fun node => (readNode node).result) (index + 1) items <;> rfl

/-- The children are what stands first under the key `rules`. -/
theorem readChildren_eq (ms : Members) : readChildren ms =
    match ms.find? "rules" with
    | none | some .null => pure []
    | some (.array items) => readItems 0 items
    | some _ => Logged.fail ⟨"rules", .malformed .rules⟩ := by
  induction ms with
  | nil => rfl
  | cons m ms ih =>
    obtain ⟨key, value⟩ := m
    rw [readChildren.eq_def, Members.find?_cons]
    by_cases h : key = "rules"
    · subst h
      simp only [if_true]
      cases value <;> rfl
    · simp only [if_neg h, if_neg (Ne.symm h), ih]

theorem readChildren_result (ms : Members) : (readChildren ms).result =
    match ms.find? "rules" with
    | none | some .null => .ok []
    | some (.array items) => (readItems 0 items).result
    | some _ => .error ⟨"rules", .malformed .rules⟩ := by
  rw [readChildren_eq]
  cases ms.find? "rules" with
  | none => rfl
  | some value => cases value <;> rfl

theorem readChildren_error (h : ¬ IsList (ms.find? "rules")) :
    (readChildren ms).result = .error ⟨"rules", .malformed .rules⟩ := by
  rw [readChildren_result]
  cases hv : ms.find? "rules" with
  | none => exact absurd (hv ▸ trivial) h
  | some value =>
    cases value with
    | null | array => exact absurd (hv ▸ trivial) h
    | _ => rfl

/-- The children are the nodes below a group. -/
theorem readChildren_subnodes {value : Json} (hc : ms.find? "condition" = some value)
    (h : IsList (ms.find? "rules")) : (readChildren ms).result =
      Preorder.collect (fun node => (readNode node).result) 0 (Json.object ms).subnodes := by
  rw [readChildren_result, Json.subnodes, hc]
  cases hv : ms.find? "rules" with
  | none => rfl
  | some value =>
    rw [hv] at h
    cases value with
    | null => rfl
    | array items => exact readItems_result 0 items
    | _ => exact h.elim

theorem readNode_group_result {value : Json} (h : ms.find? "condition" = some value) :
    (readNode (.object ms)).result = (conditionMember ms).bind fun condition =>
      (readChildren ms).result.map (group condition) := by
  rw [readNode, if_pos (by rw [h]; rfl), Logged.result_bind]
  change (_ >>= _ : Logged Rule).result = _
  rw [Logged.result_bind]
  change (conditionMember ms).bind _ = _
  cases conditionMember ms with
  | error e => rfl
  | ok condition =>
    change (_ >>= _ : Logged Rule).result = _
    rw [Logged.result_bind]
    cases (readChildren ms).result <;> rfl

theorem readNode_comparison_result {value : Json} (hc : ms.find? "condition" = none)
    (ho : ms.find? "operator" = some value) :
    (readNode (.object ms)).result = (Comparison.ofMembers ms).map comparison := by
  rw [readNode, if_neg (by rw [hc]; simp), if_pos (by rw [ho]; rfl), Logged.result_bind]
  change (_ >>= _ : Logged Rule).result = _
  rw [Logged.result_bind]
  cases Comparison.ofMembers ms <;> rfl

/-- Reading a node that offends fails with its offence. -/
theorem readNode_offends {node : Json} {key : Option String} {cause : RuleError.Cause}
    (h : node.Offends key cause) : (readNode node).result = .error ⟨key.getD "", cause⟩ := by
  cases h with
  | shape hn =>
    cases node with
    | object ms => exact absurd rfl (hn ms)
    | _ => rfl
  | noKey hc ho =>
    rw [readNode, if_neg (by rw [hc]; simp), if_neg (by rw [ho]; simp)]
    rfl
  | @condition ms value hc hv =>
    have he : conditionMember ms = .error ⟨"condition", .malformed .condition⟩ := by
      unfold conditionMember
      rw [hc]
      cases value with
      | string name => exact absurd rfl (hv name)
      | _ => rfl
    rw [readNode_group_result hc, he]
    rfl
  | @unknownCondition ms name hc ha ho =>
    have he : conditionMember ms = .error ⟨"condition", .unknownCondition name⟩ := by
      simp only [conditionMember, hc, Condition.ofName?, if_neg ha, if_neg ho]
    rw [readNode_group_result hc, he]
    rfl
  | @rules ms name hc hn hr =>
    obtain ⟨condition, hcond⟩ := conditionMember_total hc hn
    rw [readNode_group_result hc, hcond, readChildren_error hr]
    rfl
  | field hc ho hf =>
    rw [readNode_comparison_result hc ho, Comparison.ofMembers, stringMember_error _ hf]
    rfl
  | operator hc ho hf hv =>
    obtain ⟨s, hs⟩ := stringMember_total .field hf
    rw [readNode_comparison_result hc ho, Comparison.ofMembers, hs,
      stringMember_error _ (ho ▸ hv)]
    rfl

end Rule

namespace Json

theorem Offends.key_ne {node : Json} {key : Option String} {cause : RuleError.Cause}
    (h : node.Offends key cause) : key ≠ some "" := by
  cases h <;> simp

/-- A node offends in one way. -/
theorem Offends.unique {node : Json} {key key' : Option String} {cause cause' : RuleError.Cause}
    (h : node.Offends key cause) (h' : node.Offends key' cause') : key = key' ∧ cause = cause' := by
  -- both are what reading the node finds
  have he := (Rule.readNode_offends h).symm.trans (Rule.readNode_offends h')
  simp only [Except.error.injEq, RuleError.mk.injEq] at he
  refine ⟨?_, he.2⟩
  have hk := h.key_ne
  have hk' := h'.key_ne
  cases key with
  | none =>
    cases key' with
    | none => rfl
    | some k' => exact absurd (congrArg some he.1.symm) hk'
  | some k =>
    cases key' with
    | none => exact absurd (congrArg some he.1) hk
    | some k' => exact congrArg some he.1

/-- A node with a proper condition and proper rules does not offend, whatever its rules are. -/
theorem passes_group {ms : Members} {name : String}
    (hc : ms.find? "condition" = some (.string name)) (hn : name = "AND" ∨ name = "OR")
    (hr : IsList (ms.find? "rules")) : Preorder.Passes Offends (.object ms) := by
  intro key cause h
  cases h with
  | shape h => exact h ms rfl
  | noKey h | field h | operator h =>
    rw [hc] at h
    cases h
  | condition h hv =>
    rw [hc] at h
    cases h
    exact hv name rfl
  | unknownCondition h ha ho =>
    rw [hc] at h
    cases h
    exact hn.elim ha ho
  | rules _ _ h => exact h hr

end Json

namespace Rule

/-! ## Reading a tree -/

/-- What reading makes of a node: it offends, or is a comparison, or a group of what the
    nodes below it are read as. -/
inductive NodeReading (node : Json) : Prop
  | offence {key cause} : node.Offends key cause → NodeReading node
  | comparison {ms c} : node = .object ms → Comparison.ofMembers ms = .ok c →
      node.subnodes = [] → (readNode node).result = .ok (.comparison c) → NodeReading node
  | group (condition : Condition) : Preorder.Passes Json.Offends node →
      (readNode node).result =
        (Preorder.collect (fun n => (readNode n).result) 0 node.subnodes).map (.group condition) →
      NodeReading node

theorem nodeReading_object (ms : Members) : NodeReading (.object ms) := by
  cases hc : ms.find? "condition" with
  | none =>
    cases ho : ms.find? "operator" with
    | none => exact .offence (.noKey hc ho)
    | some value =>
      by_cases hf : IsName (ms.find? "field")
      · by_cases hv : IsName (some value)
        · obtain ⟨c, hm⟩ := ofMembers_total hf (ho ▸ hv)
          refine .comparison rfl hm (by rw [Json.subnodes, hc]) ?_
          rw [readNode_comparison_result hc ho, hm]
          rfl
        · exact .offence (.operator hc ho hf hv)
      · exact .offence (.field hc ho hf)
  | some value =>
    by_cases hs : ∃ name, value = .string name
    · obtain ⟨name, rfl⟩ := hs
      by_cases hn : name = "AND" ∨ name = "OR"
      · by_cases hr : IsList (ms.find? "rules")
        · obtain ⟨condition, hcond⟩ := conditionMember_total hc hn
          refine .group condition (Json.passes_group hc hn hr) ?_
          rw [readNode_group_result hc, hcond, ← readChildren_subnodes hc hr]
          rfl
        · exact .offence (.rules hc hn hr)
      · rw [not_or] at hn
        exact .offence (.unknownCondition hc hn.1 hn.2)
    · exact .offence (.condition hc fun name h => hs ⟨name, h⟩)

theorem nodeReading (node : Json) : NodeReading node := by
  cases node with
  | object ms => exact nodeReading_object ms
  | null | bool | number | string | array => exact .offence (.shape fun _ h => by cases h)

/-- Reading looks at a node and then at the nodes below it. -/
theorem readNode_step (node : Json) :
    Preorder.Step Json.subnodes Json.Offends (fun n => (readNode n).result) node := by
  cases nodeReading node with
  | offence h => exact .fails h h.key_ne (readNode_offends h)
  | @comparison _ c _ _ hs hr =>
    refine .passes (fun _ => .comparison c) (fun key cause h => ?_) ?_
    · rw [readNode_offends h] at hr
      cases hr
    · rw [hs]
      exact hr
  | group condition hp hr => exact .passes (.group condition) hp hr

/-- The comparisons of a rule that has been read are what its nodes hold. -/
theorem ofMembers_of_mem_comparisons {node : Json} {rule : Rule} {c : Comparison}
    (h : (readNode node).result = .ok rule) (hc : c ∈ rule.comparisons) :
    ∃ address ms, Preorder.descend Json.subnodes address node = some (.object ms) ∧
      Comparison.ofMembers ms = .ok c := by
  induction node using Json.subnodes_founded.induction generalizing rule with | h node ih => ?_
  cases nodeReading node with
  | offence ho =>
    rw [readNode_offends ho] at h
    cases h
  | comparison hn hm _ hr =>
    subst hn
    rw [hr] at h
    cases h
    cases List.mem_singleton.1 hc
    exact ⟨[], _, rfl, hm⟩
  | group _ _ hr =>
    rw [hr] at h
    obtain ⟨rules, hrules, rfl⟩ := map_eq_ok_iff.1 h
    obtain ⟨r, hr, hc⟩ := mem_comparisons_group.1 hc
    obtain ⟨index, hlt, rfl⟩ := List.getElem_of_mem hr
    obtain ⟨hlen, hget⟩ := List.forall₂_iff_get.1 (Preorder.collect_ok_iff.1 hrules)
    have hlt' : index < node.subnodes.length := hlen ▸ hlt
    have hm : node.subnodes[index] ∈ node.subnodes := List.getElem_mem hlt'
    obtain ⟨address, ms, hd, hm⟩ := ih _ hm (hget index hlt' hlt) hc
    exact ⟨index :: address, ms,
      Preorder.descend_cons.2 ⟨_, List.getElem?_eq_getElem hlt', hd⟩, hm⟩

/-! ## Reading a rule or no rule -/

theorem readLogged_eq {node : Json} (h : ¬ (node = .null ∨ node = .object [])) :
    readLogged node =
      (readNode node >>= fun rule => pure (some rule)).reporting .readingFailed := by
  unfold readLogged
  split
  · exact absurd (.inl rfl) h
  · exact absurd (.inr rfl) h
  · rfl

theorem ofJson_eq {node : Json} (h : ¬ (node = .null ∨ node = .object [])) :
    ofJson node = (readNode node).result.map some := by
  rw [ofJson, readLogged_eq h, Logged.result_reporting, Logged.result_bind]
  cases (readNode node).result <;> rfl

theorem readNode_of_ofJson {node : Json} {rule : Rule} (h : ofJson node = .ok (some rule)) :
    (readNode node).result = .ok rule := by
  by_cases hn : node = .null ∨ node = .object []
  · rcases hn with rfl | rfl <;> cases h
  · rw [ofJson_eq hn] at h
    obtain ⟨r, hr, he⟩ := map_eq_ok_iff.1 h
    cases he
    exact hr

/-- Nothing but `null` and the empty object is no rule. -/
theorem ofJson_none_iff (node : Json) :
    ofJson node = .ok none ↔ node = .null ∨ node = .object [] := by
  refine ⟨fun h => ?_, ?_⟩
  · by_contra hn
    rw [ofJson_eq hn, map_eq_ok_iff] at h
    obtain ⟨rule, -, h⟩ := h
    cases h
  · rintro (rfl | rfl) <;> rfl

/-- **Reading accepts the rules and reports the first offence.** -/
theorem ofJson_first_offence (node : Json) :
    (ofJson node = .ok none ↔ node = .null ∨ node = .object []) ∧
    (¬ (node = .null ∨ node = .object []) →
      ((∃ rule, ofJson node = .ok (some rule)) ↔ ∀ address n,
        Preorder.descend Json.subnodes address node = some n → Preorder.Passes Json.Offends n) ∧
      ∀ e, ofJson node = .error e ↔ ∃ address key cause,
        Preorder.FirstFailure Json.subnodes Json.Offends node address key cause ∧
          e = ⟨Preorder.place address key, cause⟩) := by
  refine ⟨ofJson_none_iff node, fun h => ⟨?_, fun e => ?_⟩⟩
  · rw [← Preorder.run_ok_iff Json.subnodes_founded readNode_step node, ofJson_eq h]
    simp [map_eq_ok_iff]
  · rw [ofJson_eq h, map_eq_error_iff]
    exact Preorder.run_error_iff Json.subnodes_founded readNode_step
      fun _ _ _ _ _ h h' => h.unique h'

end Rule

end FilterRules
