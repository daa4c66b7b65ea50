/-
  FilterRules — canonical forms.

  Nodes can differ and still be read as one rule: reading passes over keys that it does not
  know, and takes a key that is missing or null for an empty one.  The canonical form of a node
  has exactly the keys that reading looks at, and something under each of them.

  * `Json.canonical` is that form.  Whatever stands under `value` is kept as it is, although it
    may look like a rule itself;
  * `canonical_group` and `canonical_leaf`: the form of an object with and without a key
    `condition`, and `canonical_canonical`: a canonical form is its own;
  * `toJson_eq_canonical`: a rule is written as the canonical form of any node that is read as
    the rule;
  * `ofJson_canonical`: nodes are read as one rule if they have one canonical form, which is
    read so itself.
-/
import FilterRules.Proofs.Rule.Reading
import FilterRules.Proofs.Rule.RoundTrip

namespace FilterRules

namespace Json

/-! ## Forms -/

/-- A name, which is empty if there is nothing or `null`. -/
def orEmpty : Option Json → Json
  | none | some .null => .string ""
  | some value => value

mutual

/-- The canonical form of a node; what is no object stays as it is. -/
def canonical : Json → Json
  | .object ms =>
    match Members.find? ms "condition" with
    | some condition => .object [("condition", condition), ("rules", canonicalRules ms)]
    | none => .object [("field", orEmpty (Members.find? ms "field")),
        ("operator", orEmpty (Members.find? ms "operator")),
        ("value", (Members.find? ms "value").getD .null)]
  | node => node

/-- The canonical forms of the rules of a group, which stand under the key `rules`. -/
def canonicalRules : List (String × Json) → Json
  | [] => .array []
  | (key, value) :: rest =>
    if key = "rules" then
      match value with
      | .null => .array []
      | .array items => .array (canonicalItems items)
      | other => other
    else canonicalRules rest

/-- The canonical forms of some nodes. -/
def canonicalItems : List Json → List Json
  | [] => []
  | item :: items => canonical item :: canonicalItems items

end

theorem canonicalItems_eq (items : List Json) : canonicalItems items = items.map canonical := by
  induction items with
  | nil => rfl
  | cons item items ih => rw [canonicalItems, ih, List.map_cons]

theorem canonicalRules_eq (ms : Members) : canonicalRules ms =
    match ms.find? "rules" with
    | none | some .null => .array []
    | some (.array items) => .array (items.map canonical)
    | some other => other := by
  induction ms with
  | nil => rfl
  | cons m ms ih =>
    obtain ⟨key, value⟩ := m
    rw [canonicalRules.eq_def, Members.find?_cons]
    by_cases h : key = "rules"
    · subst h
      cases value <;> simp [canonicalItems_eq]
    · simp only [if_neg h, if_neg (Ne.symm h), ih]

section
variable {ms : Members}

theorem canonical_group {condition : Json} (h : ms.find? "condition" = some condition) :
    (object ms).canonical = .object [("condition", condition), ("rules", canonicalRules ms)] := by
  rw [canonical, h]

theorem canonical_leaf (h : ms.find? "condition" = none) :
    (object ms).canonical = .object [("field", orEmpty (ms.find? "field")),
      ("operator", orEmpty (ms.find? "operator")), ("value", (ms.find? "value").getD .null)] := by
  rw [canonical, h]

/-- The rules of the canonical form are the canonical forms of the nodes below a group. -/
theorem canonicalRules_subnodes {condition : Json} (h : ms.find? "condition" = some condition)
    (hr : IsList (ms.find? "rules")) :
    canonicalRules ms = .array ((object ms).subnodes.map canonical) := by
  rw [canonicalRules_eq, subnodes, h]
  cases hv : ms.find? "rules" with
  | none => rfl
  | some value =>
    rw [hv] at hr
    cases value with
    | null | array => rfl
    | _ => exact hr.elim

end

theorem orEmpty_orEmpty (value : Option Json) : orEmpty (some (orEmpty value)) = orEmpty value := by
  cases value with
  | none => rfl
  | some value => cases value <;> rfl

/-! ## Forms of forms -/

theorem canonical_members_leaf (field operator value : Json) :
    (object [("field", field), ("operator", operator), ("value", value)]).canonical =
      .object [("field", orEmpty (some field)), ("operator", orEmpty (some operator)),
        ("value", value)] := rfl

theorem canonical_members_group (condition rules : Json) :
    (object [("condition", condition), ("rules", rules)]).canonical =
      .object [("condition", condition), ("rules", canonicalRules [("rules", rules)])] := rfl

/-- The rules of a canonical form are in canonical form, if the nodes below the group are. -/
theorem canonicalRules_canonicalRules {ms : Members}
    (h : ∀ items, ms.find? "rules" = some (.array items) → ∀ item ∈ items,
      item.canonical.canonical = item.canonical) :
    canonicalRules [("rules", canonicalRules ms)] = canonicalRules ms := by
  rw [canonicalRules_eq ms]
  cases hv : ms.find? "rules" with
  | none => rfl
  | some value =>
    cases value with
    | array items =>
      rw [canonicalRules, if_pos rfl, canonicalItems_eq, array.injEq, List.map_map]
      exact List.map_congr_left (h items hv)
    | _ => rfl

theorem canonical_canonical_object {ms : Members}
    (h : ∀ sub ∈ (object ms).subnodes, sub.canonical.canonical = sub.canonical) :
    (object ms).canonical.canonical = (object ms).canonical := by
  cases hc : ms.find? "condition" with
  | none =>
    rw [canonical_leaf hc, canonical_members_leaf, orEmpty_orEmpty, orEmpty_orEmpty]
  | some condition =>
    rw [canonical_group hc, canonical_members_group, canonicalRules_canonicalRules]
    intro items hr item hi
    refine h item ?_
    rw [subnodes, hc, hr]
    exact hi

/-- **A canonical form is its own canonical form.** -/
theorem canonical_canonical (node : Json) : node.canonical.canonical = node.canonical := by
  induction node using subnodes_founded.induction with | h node ih => ?_
  cases node with
  | object ms => exact canonical_canonical_object ih
  | null | bool | number | string | array => rfl

end Json

/-! ## Rules -/

theorem Condition.eq_name_of_ofName? {name : String} {condition : Condition}
    (h : Condition.ofName? name = some condition) : name = condition.name := by
  unfold Condition.ofName? at h
  split at h
  · next hn =>
    cases h
    exact hn
  · split at h
    · next hn =>
      cases h
      exact hn
    · cases h

namespace Rule

open Json (Members IsList orEmpty)

section
variable {ms : Members}

theorem orEmpty_of_stringMember {key s : String} {expected : Expected}
    (h : stringMember ms key expected = .ok s) : orEmpty (ms.find? key) = .string s := by
  rcases stringMember_ok_iff.1 h with h | ⟨rfl, h | h⟩ <;> rw [h] <;> rfl

theorem condition_of_conditionMember {condition : Condition}
    (h : conditionMember ms = .ok condition) :
    ms.find? "condition" = some (.string condition.name) := by
  unfold conditionMember at h
  split at h
  case h_1 name hn =>
    split at h
    case h_1 c hc =>
      cases h
      rw [hn, Condition.eq_name_of_ofName? hc]
    case h_2 => cases h
  case h_2 => cases h

theorem isList_of_readChildren {rules : List Rule} (h : (readChildren ms).result = .ok rules) :
    IsList (ms.find? "rules") := by
  by_contra hl
  rw [readChildren_error hl] at h
  cases h

theorem toJson_eq_canonical_leaf {rule : Rule} (hc : ms.find? "condition" = none)
    (h : (readNode (.object ms)).result = .ok rule) : rule.toJson = (Json.object ms).canonical := by
  cases ho : ms.find? "operator" with
  | none =>
    rw [readNode_offends (.noKey hc ho)] at h
    cases h
  | some value =>
    rw [readNode_comparison_result hc ho] at h
    obtain ⟨c, hm, rfl⟩ := map_eq_ok_iff.1 h
    obtain ⟨hfield, hname, hvalue⟩ := ofMembers_ok_iff.1 hm
    rw [toJson, Json.canonical_leaf hc, orEmpty_of_stringMember hfield,
      orEmpty_of_stringMember hname, hvalue]

theorem toJson_eq_canonical_group {rule : Rule} {value : Json}
    (hc : ms.find? "condition" = some value)
    (ih : ∀ sub ∈ (Json.object ms).subnodes, ∀ r, (readNode sub).result = .ok r →
      r.toJson = sub.canonical)
    (h : (readNode (.object ms)).result = .ok rule) : rule.toJson = (Json.object ms).canonical := by
  rw [readNode_group_result hc] at h
  cases hm : conditionMember ms with
  | error e =>
    rw [hm] at h
    cases h
  | ok condition =>
    rw [hm] at h
    obtain ⟨rules, hrules, rfl⟩ := map_eq_ok_iff.1 h
    have hl : IsList (ms.find? "rules") := isList_of_readChildren hrules
    rw [readChildren_subnodes hc hl] at hrules
    have hr : (Json.object ms).subnodes.map Json.canonical = rules.map toJson := by
      rw [← List.forall₂_eq_eq_eq, List.forall₂_map_left_iff, List.forall₂_map_right_iff]
      refine ((List.forall₂_and_left _ _).2 ⟨ih, Preorder.collect_ok_iff.1 hrules⟩).imp ?_
      exact fun sub r h => (h.1 r h.2).symm
    rw [toJson, Json.canonical_group (condition_of_conditionMember hm),
      Json.canonicalRules_subnodes hc hl, toJsonList_eq, hr]

/-- **A rule is written as the canonical form of what it has been read from.** -/
theorem toJson_eq_canonical {node : Json} {rule : Rule} (h : (readNode node).result = .ok rule) :
    rule.toJson = node.canonical := by
  induction node using Json.subnodes_founded.induction generalizing rule with | h node ih => ?_
  cases node with
  | object ms =>
    cases hc : Members.find? ms "condition" with
    | none => exact toJson_eq_canonical_leaf hc h
    | some value => exact toJson_eq_canonical_group hc (fun sub hs r => ih sub hs) h
  | null | bool | number | string | array =>
    rw [readNode_offends (.shape fun _ h => by cases h)] at h
    cases h

theorem toJson_injective {rule rule' : Rule} (h : rule.toJson = rule'.toJson) : rule = rule' := by
  have hr := readNode_toJson rule
  rw [h, readNode_toJson, Except.ok.injEq] at hr
  exact hr.symm

end

/-- **Writing a rule undoes reading it, up to what reading passes over.**  A canonical form is its
    own.  If a node is read as a rule, then its canonical form is what the rule is written as and
    is read as the same rule, and other nodes that are read as a rule are read as this one where
    they have this canonical form. -/
theorem ofJson_canonical :
    (∀ node : Json, node.canonical.canonical = node.canonical) ∧
    ∀ (node : Json) (rule : Rule), ofJson node = .ok (some rule) →
      rule.toJson = node.canonical ∧ ofJson node.canonical = ofJson node ∧
      ∀ (other : Json) (rule' : Rule), ofJson other = .ok (some rule') →
        (rule = rule' ↔ node.canonical = other.canonical) := by
  refine ⟨Json.canonical_canonical, fun node rule h => ?_⟩
  have hw : rule.toJson = node.canonical := toJson_eq_canonical (readNode_of_ofJson h)
  refine ⟨hw, ?_, fun other rule' h' => ?_⟩
  · rw [← hw, h]
    exact readLogged_toJson rule
  · have hw' : rule'.toJson = other.canonical := toJson_eq_canonical (readNode_of_ofJson h')
    rw [← hw, ← hw']
    exact ⟨congrArg toJson, toJson_injective⟩

/-- A group with keys that mean nothing in it, its canonical form, and the same rule in another
    spelling.  The value of its comparison looks like a group and is kept. -/
theorem ofJson_canonical_untidy :
    let node : Json := .object [("condition", .string "AND"), ("note", .null),
      ("operator", .string "equal"),
      ("rules", .array [
        .object [("field", .null), ("operator", .string "in"),
          ("value", .object [("condition", .string "OR"), ("rules", .null)])],
        .object [("condition", .string "OR"), ("rules", .null)]])]
    let other : Json := .object [("condition", .string "AND"),
      ("rules", .array [
        .object [("operator", .string "in"), ("rules", .bool true),
          ("value", .object [("condition", .string "OR"), ("rules", .null)])],
        .object [("condition", .string "OR"), ("value", .null)]])]
    let rule := group .and [
      .comparison ⟨"", "in", .object [("condition", .string "OR"), ("rules", .null)]⟩,
      .group .or []]
    ofJson node = .ok (some rule) ∧ ofJson other = .ok (some rule) ∧
      rule.toJson = node.canonical ∧ ofJson node.canonical = .ok (some rule) ∧
      node.canonical = other.canonical ∧ node ≠ node.canonical := by
  intro node other rule
  have h : ofJson node = .ok (some rule) := rfl
  have h' : ofJson other = .ok (some rule) := rfl
  obtain ⟨hw, hr, hc⟩ := ofJson_canonical.2 node rule h
  exact ⟨h, h', hw, hr.trans h, (hc other rule h').1 rfl, by decide⟩

end Rule

end FilterRules
