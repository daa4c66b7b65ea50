/-
  FilterRules — rules read back from their text.

  * `nesting_comparison` and `nesting_wrap`: how deep the text of a rule is nested;
  * `toJson_sorted`: a rule is written as a sorted value if the values of its
    comparisons are sorted, as the values of all JSON objects are that can be built;
  * `isBlank_toText`: the text of a rule is not blank;
  * `ofText_toText`: a rule reads back from its text, unless the text is nested too
    deep; then that is the error.
-/
import FilterRules.Proofs.Json.RoundTrip
import FilterRules.Proofs.Rule.RoundTrip

namespace FilterRules.Rule

/-! ## Nesting -/

theorem nesting_comparison (c : Comparison) :
    (comparison c).toJson.nesting = c.value.nesting + 1 := by
  simp [toJson, Json.nesting, Json.nestingMembers]

/-- Each group costs two levels, for its object and for the list of its children. -/
theorem nesting_wrap (condition : Condition) (times : Nat) (rule : Rule) :
    (wrap condition times rule).toJson.nesting = rule.toJson.nesting + 2 * times := by
  induction times generalizing rule with
  | zero => rfl
  | succ times ih =>
    have hg : (group condition [rule]).toJson.nesting = rule.toJson.nesting + 2 := by
      simp [toJson, toJsonList, Json.nesting, Json.nestingMembers, Json.nestingItems]
    rw [wrap, ih, hg]
    omega

theorem comparisons_wrap (condition : Condition) (times : Nat) (rule : Rule) :
    (wrap condition times rule).comparisons = rule.comparisons := by
  induction times generalizing rule with
  | zero => rfl
  | succ times ih => rw [wrap, ih, comparisons, comparisonsList, comparisonsList, List.append_nil]

/-! ## Sorted values -/

theorem ordered_comparison (field operator value : Json) :
    Json.Members.Ordered [("field", field), ("operator", operator), ("value", value)] := by
  change List.Pairwise (· < ·) ["field", "operator", "value"]
  decide

theorem ordered_group (condition rules : Json) :
    Json.Members.Ordered [("condition", condition), ("rules", rules)] := by
  change List.Pairwise (· < ·) ["condition", "rules"]
  decide

theorem sorted_comparison {c : Comparison} (h : c.value.Sorted) :
    (comparison c).toJson.Sorted := by
  rw [toJson, Json.sorted_object]
  refine ⟨ordered_comparison _ _ _, ?_⟩
  simp only [List.forall_mem_cons]
  exact ⟨trivial, trivial, h, List.forall_mem_nil _⟩

theorem sorted_group {condition : Condition} {rules : List Rule}
    (h : ∀ r ∈ rules, r.toJson.Sorted) : (group condition rules).toJson.Sorted := by
  have hs : ∀ json ∈ toJsonList rules, json.Sorted := by
    rw [toJsonList_eq]
    exact List.forall_mem_map.2 h
  rw [toJson, Json.sorted_object]
  refine ⟨ordered_group _ _, ?_⟩
  simp only [List.forall_mem_cons]
  exact ⟨trivial, Json.sorted_array.2 hs, List.forall_mem_nil _⟩

theorem toJson_sorted {rule : Rule} (h : ∀ c ∈ rule.comparisons, c.value.Sorted) :
    rule.toJson.Sorted := by
  induction rule with
  | comparison c => exact sorted_comparison (h c List.mem_cons_self)
  | group condition rules ih =>
    refine sorted_group fun r hr => ih r hr fun c hc => ?_
    exact h c (mem_comparisons_group.2 ⟨r, hr, hc⟩)

/-! ## Floats -/

/-- The numbers in what is written for a rule are those in the values of its comparisons. -/
theorem inside_toJson {n : Json.Number} {rule : Rule}
    (h : Json.Inside (.number n) rule.toJson) :
    ∃ c ∈ rule.comparisons, Json.Inside (.number n) c.value := by
  induction rule with
  | comparison c =>
    cases h with
    | member hm h =>
      simp only [List.mem_cons, List.not_mem_nil, or_false] at hm
      rcases hm with rfl | rfl | rfl
      · cases h
      · cases h
      · exact ⟨c, List.mem_cons_self, h⟩
  | group condition rules ih =>
    cases h with
    | member hm h =>
      simp only [List.mem_cons, List.not_mem_nil, or_false] at hm
      rcases hm with rfl | rfl
      · cases h
      · rw [toJsonList_eq] at h
        cases h with
        | item hi h =>
          obtain ⟨r, hr, rfl⟩ := List.mem_map.1 hi
          obtain ⟨c, hc, h⟩ := ih r hr h
          exact ⟨c, mem_comparisons_group.2 ⟨r, hr, hc⟩, h⟩

theorem toJson_floatsReadBack {rule : Rule} (h : ∀ c ∈ rule.comparisons, c.value.FloatsReadBack) :
    rule.toJson.FloatsReadBack := by
  intro x hf hi
  obtain ⟨c, hc, hi⟩ := inside_toJson hi
  exact h c hc x hf hi

/-! ## Texts -/

theorem isBlank_toText (rule : Rule) : Text.isBlank rule.toJson.toText = false := by
  rw [Text.isBlank, Json.toText, String.toList_ofList]
  cases rule <;> rfl

/-- The result of reading a text that is not blank, from the JSON that it holds. -/
theorem ofText_eq {text : String} (h : Text.isBlank text = false) : ofText text =
    match Json.read text with
    | .ok node => (readLogged node).result
    | .error fault => .error ⟨"", .invalidJson (fault.describe text.toList)⟩ := by
  rw [ofText, readTextLogged, if_neg (by simp [h])]
  cases Json.read text <;> rfl

/-- **A rule reads back from its text if the floats in its values do, unless more than 127
    arrays and objects stand inside each other there.  Then the text is refused for that.** -/
theorem ofText_toText {rule : Rule} (hs : ∀ c ∈ rule.comparisons, c.value.Sorted)
    (hb : ∀ c ∈ rule.comparisons, c.value.FloatsReadBack) :
    (rule.toJson.nesting ≤ 127 → ofText rule.toJson.toText = .ok (some rule)) ∧
      (127 < rule.toJson.nesting → ∃ line column : Nat, ofText rule.toJson.toText =
        .error ⟨"", .invalidJson
          s!"recursion limit exceeded at line {line} column {column}"⟩) := by
  obtain ⟨hok, hdeep⟩ := Json.settles_readDepth (toJson_sorted hs) (toJson_floatsReadBack hb)
    Json.nestingLimit
  rw [ofText_eq (isBlank_toText rule), Json.read_toText]
  refine ⟨fun hn => ?_, fun hn => ?_⟩
  · rw [hok hn]
    exact readLogged_toJson rule
  · obtain ⟨left, hl⟩ := hdeep hn
    rw [hl]
    exact ⟨_, _, rfl⟩

/-- Sixty-three groups around a comparison are read, unless its value is a list. -/
theorem ofText_toText_groups : ∃ tenth : Json.Number,
    tenth.render = ['0', '.', '1'] ∧
      ofText (wrap .and 63 (.comparison ⟨"a", "equal", .number tenth⟩)).toJson.toText =
        .ok (some (wrap .and 63 (.comparison ⟨"a", "equal", .number tenth⟩))) ∧
      ∃ line column : Nat,
        ofText (wrap .and 63 (.comparison ⟨"\"\n", "in", .array []⟩)).toJson.toText = .error
          ⟨"", .invalidJson s!"recursion limit exceeded at line {line} column {column}"⟩ := by
  have hs (c : Comparison) (h : c.value.Sorted) :
      ∀ d ∈ (wrap .and 63 (.comparison c)).comparisons, d.value.Sorted := by
    rw [comparisons_wrap, comparisons]
    simpa using h
  have hb (c : Comparison) (h : c.value.FloatsReadBack) :
      ∀ d ∈ (wrap .and 63 (.comparison c)).comparisons, d.value.FloatsReadBack := by
    rw [comparisons_wrap, comparisons]
    simpa using h
  have ht : (Json.Number.float ⟨0x3fb999999999999a⟩ rfl).render = ['0', '.', '1'] := by
    decide +kernel
  refine ⟨.float ⟨0x3fb999999999999a⟩ rfl, ht, (ofText_toText (hs _ ?_) (hb _ ?_)).1 ?_,
    (ofText_toText (hs _ ?_) (hb _ ?_)).2 ?_⟩
  · trivial
  · intro x hf h
    cases h
    exact Json.readsBack_of_short (by rw [ht]; decide) (by rw [ht]; decide)
  · rw [nesting_wrap, nesting_comparison]
    decide
  · simp [Json.Sorted, Json.SortedItems]
  · intro x hf h
    cases h with
    | item h => cases h
  · rw [nesting_wrap, nesting_comparison]
    decide

end FilterRules.Rule
