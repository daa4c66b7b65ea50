/-
  FilterRules — what the log tells of reading and compiling.

  * `Json.entered?` is the event of a node of what is read, which is there if the node is an
    object with a key `condition` or `operator`; `Rule.entered` is the event of a node of a rule,
    and `Rule.nodes` are the nodes in the order in which they are written;
  * `Event.Reports` says that an event carries an error, as a failure does;
  * `readNode_logStep`: reading a node writes its event, and then what reading the nodes below it
    writes, unless the node offends;
  * `readNode_nodes`: reading a rule writes an event for each of its nodes;
  * `validateLogged_ok` and `validateLogged_error`: validating writes nothing but a failure;
  * `log_exact` joins these: the log of reading has the events of the nodes up to the first one
    that offends, and then the failure, and compiling writes the failure alone.
-/
import FilterRules.Proofs.Filter.Lowering
import FilterRules.Proofs.Rule.Canonical
import FilterRules.Proofs.Visits

namespace FilterRules

/-! ## Entries -/

/-- The event of a node of what is read: it is entered if it has one of the keys of a rule. -/
def Json.entered? : Json → Option Event
  | .object ms =>
    if (Members.find? ms "condition").isSome then some .enteredGroup
    else if (Members.find? ms "operator").isSome then some .enteredComparison
    else none
  | _ => none

section
variable {ms : Json.Members}

theorem Json.entered?_group {value : Json} (hc : ms.find? "condition" = some value) :
    (Json.object ms).entered? = some .enteredGroup := by
  rw [entered?, if_pos (by rw [hc]; rfl)]

theorem Json.entered?_comparison {value : Json} (hc : ms.find? "condition" = none)
    (ho : ms.find? "operator" = some value) :
    (Json.object ms).entered? = some .enteredComparison := by
  rw [entered?, if_neg (by rw [hc]; simp), if_pos (by rw [ho]; rfl)]

theorem Json.entered?_none (hc : ms.find? "condition" = none) (ho : ms.find? "operator" = none) :
    (Json.object ms).entered? = none := by
  rw [entered?, if_neg (by rw [hc]; simp), if_neg (by rw [ho]; simp)]

theorem Json.subnodes_of_not_isList (h : ¬ IsList (ms.find? "rules")) :
    (Json.object ms).subnodes = [] := by
  rw [subnodes]
  split
  · next hr =>
    rw [hr] at h
    exact absurd trivial h
  · rfl

end

theorem Json.entered?_level {node : Json} {event : Event} (h : node.entered? = some event) :
    event.level = .trace := by
  unfold entered? at h
  split at h
  · split at h
    · cases h
      rfl
    · split at h
      · cases h
        rfl
      · cases h
  · cases h

/-- An event reports an error: it matters more than an entry, and carries the path and the wording
    of the cause. -/
structure Event.Reports (event : Event) (e : RuleError) : Prop where
  level : event.level = .debug
  fields : event.fields = [("path", e.path), ("error", e.cause.message)]

open Json (Members IsName IsList)

namespace Rule

/-- The event of a node of a rule. -/
def entered : Rule → Event
  | .comparison _ => .enteredComparison
  | .group _ _ => .enteredGroup

theorem entered_level (rule : Rule) : rule.entered.level = .trace := by
  cases rule <;> rfl

mutual

/-- The nodes of a rule, each one before its children, and these from left to right. -/
def nodes : Rule → List Rule
  | .comparison c => [.comparison c]
  | .group condition rules => .group condition rules :: nodesList rules

/-- The nodes of some rules, one rule after the other. -/
def nodesList : List Rule → List Rule
  | [] => []
  | rule :: rules => rule.nodes ++ nodesList rules

end

theorem nodesList_eq (rules : List Rule) : nodesList rules = rules.flatMap nodes := by
  induction rules with
  | nil => rfl
  | cons rule rules ih => rw [nodesList, ih, List.flatMap_cons]

theorem nodes_eq (rule : Rule) : rule.nodes = rule :: rule.children.flatMap nodes := by
  cases rule with
  | comparison c => rfl
  | group condition rules => rw [nodes, nodesList_eq, children]

/-! ## Reading a node -/

variable {ms : Members}

/-- The items of a list are read one after the other, up to the first that fails. -/
theorem readItems_events (index : Nat) (items : List Json) : (readItems index items).events =
    (Preorder.reached (fun node => (readNode node).result) items).flatMap fun node =>
      (readNode node).events := by
  induction items generalizing index with
  | nil => rfl
  | cons item items ih =>
    rw [readItems, Preorder.reached]
    cases hr : (readNode item).result with
    | error e =>
      have he : ((readNode item).mapError (RuleError.withinChild index)).result =
          .error (e.withinChild index) := by
        rw [Logged.result_mapError, hr]
        rfl
      rw [Logged.events_bind_error he, Logged.events_mapError, List.flatMap_singleton]
    | ok rule =>
      have ho : ((readNode item).mapError (RuleError.withinChild index)).result = .ok rule := by
        rw [Logged.result_mapError, hr]
        rfl
      rw [Logged.events_bind_ok ho, Logged.events_mapError, Logged.events_bind_pure, ih,
        List.flatMap_cons]

/-- What is written below a group. -/
theorem readChildren_events {value : Json} (hc : ms.find? "condition" = some value) :
    (readChildren ms).events =
      (Preorder.reached (fun node => (readNode node).result) (Json.object ms).subnodes).flatMap
        fun node => (readNode node).events := by
  rw [readChildren_eq, Json.subnodes, hc]
  cases ms.find? "rules" with
  | none => rfl
  | some value =>
    cases value with
    | array items => exact readItems_events 0 items
    | null | bool | number | string | object => rfl

theorem readNode_group_events {value : Json} (hc : ms.find? "condition" = some value) :
    (readNode (.object ms)).events = .enteredGroup ::
      match conditionMember ms with
      | .ok _ => (readChildren ms).events
      | .error _ => [] := by
  rw [readNode, if_pos (by rw [hc]; rfl), Logged.events_bind_ok (a := ()) rfl]
  cases hm : conditionMember ms with
  | error e =>
    rw [Logged.events_bind_error (e := e) rfl]
    rfl
  | ok condition =>
    rw [Logged.events_bind_ok (a := condition) rfl, Logged.events_bind_pure]
    rfl

theorem readNode_comparison_events {value : Json} (hc : ms.find? "condition" = none)
    (ho : ms.find? "operator" = some value) :
    (readNode (.object ms)).events = [.enteredComparison] := by
  rw [readNode, if_neg (by rw [hc]; simp), if_pos (by rw [ho]; rfl),
    Logged.events_bind_ok (a := ()) rfl, Logged.events_bind_pure]
  rfl

/-- A node that offends writes its event and nothing else. -/
theorem readNode_offends_events {node : Json} {key : Option String} {cause : RuleError.Cause}
    (h : node.Offends key cause) : (readNode node).events = node.entered?.toList := by
  cases h with
  | shape hn =>
    cases node with
    | object ms => exact absurd rfl (hn ms)
    | null | bool | number | string | array => rfl
  | noKey hc ho =>
    rw [readNode, if_neg (by rw [hc]; simp), if_neg (by rw [ho]; simp), Json.entered?_none hc ho]
    rfl
  | @condition ms value hc hv =>
    rw [readNode_group_events hc, Json.entered?_group hc]
    cases hm : conditionMember ms with
    | error e => rfl
    | ok c =>
      rw [condition_of_conditionMember hm] at hc
      cases hc
      exact absurd rfl (hv c.name)
  | @unknownCondition ms name hc ha ho =>
    rw [readNode_group_events hc, Json.entered?_group hc]
    cases hm : conditionMember ms with
    | error e => rfl
    | ok c =>
      rw [condition_of_conditionMember hm] at hc
      cases hc
      cases c with
      | and => exact absurd rfl ha
      | or => exact absurd rfl ho
  | @rules ms name hc hn hr =>
    rw [readNode_group_events hc, Json.entered?_group hc, readChildren_events hc,
      Json.subnodes_of_not_isList hr]
    cases conditionMember ms <;> rfl
  | field hc ho _ | operator hc ho _ _ =>
    rw [readNode_comparison_events hc ho, Json.entered?_comparison hc ho]
    rfl

theorem conditionMember_of_passes {value : Json} (hc : ms.find? "condition" = some value)
    (hp : Preorder.Passes Json.Offends (.object ms)) :
    ∃ condition, conditionMember ms = .ok condition := by
  by_cases hs : ∃ name, value = .string name
  · obtain ⟨name, rfl⟩ := hs
    by_cases hn : name = "AND" ∨ name = "OR"
    · exact conditionMember_total hc hn
    · rw [not_or] at hn
      exact absurd (.unknownCondition hc hn.1 hn.2) (hp _ _)
  · exact absurd (.condition hc fun name h => hs ⟨name, h⟩) (hp _ _)

/-- **Reading a node writes its event**, and behind it, unless the node offends, what reading the
    nodes below it writes. -/
theorem readNode_logStep (node : Json) : Preorder.LogStep Json.subnodes Json.Offends
    (fun n => (readNode n).result) Json.entered? (fun n => (readNode n).events) node := by
  by_cases hp : Preorder.Passes Json.Offends node
  · refine .passes hp ?_
    cases node with
    | object ms =>
      cases hc : Members.find? ms "condition" with
      | none =>
        cases ho : Members.find? ms "operator" with
        | none => exact absurd (.noKey hc ho) (hp _ _)
        | some value =>
          rw [readNode_comparison_events hc ho, Json.entered?_comparison hc ho, Json.subnodes, hc]
          rfl
      | some value =>
        obtain ⟨condition, hm⟩ := conditionMember_of_passes hc hp
        rw [readNode_group_events hc, hm, readChildren_events hc, Json.entered?_group hc]
        rfl
    | null | bool | number | string | array =>
      exact absurd (.shape fun _ h => by cases h) (hp _ _)
  · obtain ⟨key, cause, h⟩ : ∃ key cause, node.Offends key cause := by
      by_contra hn
      exact hp fun key cause h => hn ⟨key, cause, h⟩
    exact .fails h (readNode_offends_events h)

/-! ## Reading a rule -/

/-- What has been read as a rule writes the event of the rule. -/
theorem entered?_of_readNode {node : Json} {rule : Rule} (h : (readNode node).result = .ok rule) :
    node.entered? = some rule.entered := by
  cases node with
  | object ms =>
    cases hc : Members.find? ms "condition" with
    | none =>
      cases ho : Members.find? ms "operator" with
      | none =>
        rw [readNode_offends (.noKey hc ho)] at h
        cases h
      | some value =>
        rw [readNode_comparison_result hc ho] at h
        obtain ⟨c, -, rfl⟩ := map_eq_ok_iff.1 h
        exact Json.entered?_comparison hc ho
    | some value =>
      rw [readNode_group_result hc] at h
      cases hm : conditionMember ms with
      | error e =>
        rw [hm] at h
        cases h
      | ok condition =>
        rw [hm] at h
        obtain ⟨rules, -, rfl⟩ := map_eq_ok_iff.1 h
        exact Json.entered?_group hc
  | null | bool | number | string | array =>
    rw [readNode_offends (.shape fun _ h => by cases h)] at h
    cases h

/-- The children of what has been read as a rule are what the nodes below are read as. -/
theorem readNode_children {node : Json} {rule : Rule} (h : (readNode node).result = .ok rule) :
    List.Forall₂ (fun n r => (readNode n).result = .ok r) node.subnodes rule.children := by
  cases nodeReading node with
  | offence ho =>
    rw [readNode_offends ho] at h
    cases h
  | comparison _ _ hs hr =>
    rw [hr] at h
    cases h
    rw [hs]
    exact .nil
  | group _ _ hr =>
    rw [hr] at h
    obtain ⟨rules, hrules, rfl⟩ := map_eq_ok_iff.1 h
    exact Preorder.collect_ok_iff.1 hrules

/-- **Reading a rule writes an event for each of its nodes**, in the order of the nodes. -/
theorem readNode_nodes {node : Json} {rule : Rule} (h : (readNode node).result = .ok rule) :
    (readNode node).events = rule.nodes.map entered := by
  induction node using Json.subnodes_founded.induction generalizing rule with | h node ih => ?_
  have hchildren := readNode_children h
  have hok : ∀ n ∈ node.subnodes, ∃ r, (readNode n).result = .ok r :=
    (Preorder.collect_total_iff 0).1 ⟨_, Preorder.collect_ok_iff.2 hchildren⟩
  have hbelow : (node.subnodes.flatMap fun n => (readNode n).events) =
      rule.children.flatMap fun r => r.nodes.map entered := by
    rw [List.flatMap_def, List.flatMap_def]
    congr 1
    rw [← List.forall₂_eq_eq_eq, List.forall₂_map_left_iff, List.forall₂_map_right_iff]
    exact ((List.forall₂_and_left _ _).2 ⟨fun n hn r => @ih n hn r, hchildren⟩).imp
      fun n r h => h.1 r h.2
  rcases readNode_logStep node with ⟨hf, -⟩ | ⟨-, hl⟩
  · rw [readNode_offends hf] at h
    cases h
  · rw [hl, Preorder.reached_ok hok, hbelow, entered?_of_readNode h, nodes_eq, List.map_cons,
      List.map_flatMap]
    rfl

/-! ## Logs -/

/-- The log of reading a rule has an event for each of its nodes. -/
theorem readLogged_nodes {node : Json} {rule : Rule} (h : ofJson node = .ok (some rule)) :
    (readLogged node).events = rule.nodes.map entered := by
  have hn : ¬ (node = .null ∨ node = .object []) := by
    rintro (rfl | rfl) <;> cases h
  have hr : (readNode node).result = .ok rule := readNode_of_ofJson h
  have hs : (readNode node >>= fun rule => pure (some rule)).result = .ok (some rule) := by
    rw [Logged.result_bind, hr]
    rfl
  rw [readLogged_eq hn, Logged.events_reporting_ok hs, Logged.events_bind_pure, readNode_nodes hr]

/-- The log of a reading that fails has an event for each node up to the first that offends, and
    then the failure. -/
theorem readLogged_failure {node : Json} {e : RuleError} (h : ofJson node = .error e) :
    ∃ address key cause log,
      Preorder.FirstFailure Json.subnodes Json.Offends node address key cause ∧
      e = ⟨Preorder.place address key, cause⟩ ∧
      Preorder.Records Json.subnodes Json.entered? (Preorder.UpTo address) node log ∧
      (readLogged node).events = log ++ [.readingFailed e] := by
  have hn : ¬ (node = .null ∨ node = .object []) := by
    rintro (rfl | rfl) <;> cases h
  have hr : (readNode node).result = .error e := by
    rw [ofJson_eq hn] at h
    exact map_eq_error_iff.1 h
  have hs : (readNode node >>= fun rule => pure (some rule)).result = .error e := by
    rw [Logged.result_bind, hr]
    rfl
  obtain ⟨address, key, cause, hf, -, he⟩ :=
    Preorder.run_error Json.subnodes_founded readNode_step hr
  refine ⟨address, key, cause, (readNode node).events, hf, he, ?_, ?_⟩
  · exact Preorder.records_of_firstFailure Json.subnodes_founded readNode_step readNode_logStep hf
  · rw [readLogged_eq hn, Logged.events_reporting_error hs, Logged.events_bind_pure]

section
variable {limits : Limits} {rule : Rule}

theorem validateLogged_ok (h : rule.validate limits = .ok ()) :
    (rule.validateLogged limits).events = [] := by
  rw [validate, validateLogged, Logged.result_reporting] at h
  rw [validateLogged, Logged.events_reporting_ok h]
  rfl

theorem validateLogged_error {e : RuleError} (h : rule.validate limits = .error e) :
    (rule.validateLogged limits).events = [.validationFailed e] := by
  rw [validate, validateLogged, Logged.result_reporting] at h
  rw [validateLogged, Logged.events_reporting_error h]
  rfl

/-- Compiling a rule that is valid writes nothing. -/
theorem compileLogged_ok {filter : Filter} (h : rule.compile limits = .ok filter) :
    (rule.compileLogged limits).events = [] := by
  obtain ⟨hv, hl⟩ := compile_ok_iff.1 h
  have hr : (Logged.ofExcept (rule.lower limits)).result = .ok filter := hl
  rw [compileLogged, Logged.events_bind_ok hv, validateLogged_ok hv,
    Logged.events_reporting_ok hr]
  rfl

/-- Compiling a rule that is not valid writes the failure of its validation. -/
theorem compileLogged_error {e : RuleError} (h : rule.compile limits = .error e) :
    (rule.compileLogged limits).events = [.validationFailed e] := by
  have hv : rule.validate limits = .error e := validate_of_compile_error h
  rw [compileLogged, Logged.events_bind_error hv, validateLogged_error hv]

end

/-- **The log tells exactly what has happened.**  Reading no rule writes nothing, and reading a
    rule an event for each of its nodes.  Reading that fails writes an event for each node that
    has the keys of a rule, up to the first node that offends, and then the failure.  Compiling
    writes nothing, or the failure of the validation alone. -/
theorem log_exact (node : Json) :
    (ofJson node = .ok none → (readLogged node).events = []) ∧
    (∀ rule, ofJson node = .ok (some rule) →
      (readLogged node).events = rule.nodes.map entered ∧
      ∀ event ∈ (readLogged node).events, event.level = .trace) ∧
    (∀ e, ofJson node = .error e → ∃ address key cause log,
      Preorder.FirstFailure Json.subnodes Json.Offends node address key cause ∧
      e = ⟨Preorder.place address key, cause⟩ ∧
      Preorder.Records Json.subnodes Json.entered? (Preorder.UpTo address) node log ∧
      (∀ event ∈ log, event.level = .trace) ∧
      (readLogged node).events = log ++ [.readingFailed e] ∧
      (Event.readingFailed e).Reports e) ∧
    ∀ (limits : Limits) (rule : Rule),
      (∀ filter, rule.compile limits = .ok filter → (rule.compileLogged limits).events = []) ∧
      ∀ e, rule.compile limits = .error e →
        (rule.compileLogged limits).events = [.validationFailed e] ∧
        (Event.validationFailed e).Reports e := by
  refine ⟨fun h => ?_, fun rule h => ⟨readLogged_nodes h, fun event he => ?_⟩, fun e h => ?_,
    fun limits rule => ⟨fun filter h => compileLogged_ok h, fun e h => ?_⟩⟩
  · rcases (ofJson_none_iff node).1 h with rfl | rfl <;> rfl
  · rw [readLogged_nodes h] at he
    obtain ⟨r, -, rfl⟩ := List.mem_map.1 he
    exact entered_level r
  · obtain ⟨address, key, cause, log, hf, he, hr, hl⟩ := readLogged_failure h
    refine ⟨address, key, cause, log, hf, he, hr, fun event hm => ?_, hl, ⟨rfl, rfl⟩⟩
    obtain ⟨visits, -, rfl⟩ := hr
    obtain ⟨v, -, hv⟩ := List.mem_filterMap.1 hm
    exact Json.entered?_level hv
  · exact ⟨compileLogged_error h, ⟨rfl, rfl⟩⟩

/-- A group whose second rule holds an object that is no rule, and a group without rules. -/
theorem log_exact_nested : ∃ node e log,
    node = Json.object [("condition", .string "AND"), ("rules", .array [
      .object [("operator", .string "exist")],
      .object [("condition", .string "OR"), ("rules", .array [.object [("field", .null)]])],
      .object [("operator", .string "exist")]])] ∧
    e = ⟨"rules[1].rules[0]", .noFilter⟩ ∧
    log = [.enteredGroup, .enteredComparison, .enteredGroup] ∧
    ofJson node = .error e ∧ (readLogged node).events = log ++ [.readingFailed e] ∧
    (∃ address, Preorder.Records Json.subnodes Json.entered? (Preorder.UpTo address) node log) ∧
    (group .and []).compile .default = .error ⟨"rules", .emptyGroup⟩ ∧
    ((group .and []).compileLogged .default).events =
      [.validationFailed ⟨"rules", .emptyGroup⟩] := by
  obtain ⟨-, -, hfails, hcompile⟩ := log_exact (.object [("condition", .string "AND"),
    ("rules", .array [.object [("operator", .string "exist")],
      .object [("condition", .string "OR"), ("rules", .array [.object [("field", .null)]])],
      .object [("operator", .string "exist")]])])
  obtain ⟨address, key, cause, log, -, -, hr, -, hl, -⟩ :=
    hfails ⟨"rules[1].rules[0]", .noFilter⟩ rfl
  obtain rfl : [.enteredGroup, .enteredComparison, .enteredGroup] = log :=
    List.append_cancel_right hl
  exact ⟨_, _, _, rfl, rfl, rfl, rfl, hl, ⟨address, hr⟩, rfl,
    ((hcompile .default (group .and [])).2 ⟨"rules", .emptyGroup⟩ rfl).1⟩

end Rule

end FilterRules
