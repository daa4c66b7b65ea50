/-
  FilterRules — patterns stand for the texts of rules.

  A rule that looks for a piece of text is compiled to a pattern, in which nothing of the text
  has the meaning that it could have in patterns.

  * `Operator.literals` are the operators that look for a piece of text, and
    `Operator.pattern` is what they look for as a pattern;
  * `Clause.ofValue_literal` and `Clause.ofValue_negation`: the clauses of these operators and
    of their negations have this pattern;
  * `finds_pattern`: it finds something in the strings that the operator accepts;
  * `compile_pattern_literal` joins these for rules.
-/
import FilterRules.Proofs.Matching

namespace FilterRules

/-- The operators that look for a piece of text and are no negations. -/
def Operator.literals : List Operator := [.beginsWith, .contains, .endsWith]

/-- The pattern of the strings that have a text where an operator looks for it. -/
def Operator.pattern (op : Operator) (needle : String) : String :=
  match op with
  | .beginsWith => Pattern.startingWith needle
  | .endsWith => Pattern.endingWith needle
  | _ => Pattern.containing needle

section
variable {op negation : Operator} {needle : String} (ho : op ∈ Operator.literals)
include ho

theorem Operator.negated_literal : op.negated? = none ∧ op.shape = .text := by
  cases op with
  | beginsWith | contains | endsWith => exact ⟨rfl, rfl⟩
  | _ => exact absurd ho (by decide)

theorem Operator.shape_negation (hn : negation.negated? = some op) : negation.shape = .text := by
  cases negation with
  | notBeginsWith | notContains | notEndsWith => rfl
  | notEqual | notIn | isNotEmpty | isNotNull | notExist =>
    cases hn
    exact absurd ho (by decide)
  | _ => cases hn

/-! ## Clauses -/

theorem Clause.ofValue_literal (hne : needle ≠ "") :
    Clause.ofValue op (.string needle) = .ok (.regex (op.pattern needle)) := by
  have ht : textOperand op (.string needle) = .ok needle := textOperand_ok_iff.2 ⟨rfl, hne⟩
  cases op with
  | beginsWith | contains | endsWith => exact map_eq_ok_iff.2 ⟨needle, ht, rfl⟩
  | _ => exact absurd ho (by decide)

theorem Clause.ofValue_negation (hn : negation.negated? = some op) (hne : needle ≠ "") :
    Clause.ofValue negation (.string needle) = .ok (.notRegex (op.pattern needle)) := by
  have ht : textOperand negation (.string needle) = .ok needle :=
    textOperand_ok_iff.2 ⟨rfl, hne⟩
  cases negation with
  | notBeginsWith | notContains | notEndsWith =>
    cases hn
    exact map_eq_ok_iff.2 ⟨needle, ht, rfl⟩
  | notEqual | notIn | isNotEmpty | isNotNull | notExist =>
    cases hn
    exact absurd ho (by decide)
  | _ => cases hn

/-! ## Patterns -/

/-- The pattern asks for the finding of a text and nothing more. -/
theorem pieces?_pattern (needle : String) :
    ∃ pieces, Pattern.pieces? (op.pattern needle).toList = some pieces := by
  cases op with
  | beginsWith => exact ⟨_, Pattern.pieces?_startingWith needle⟩
  | contains => exact ⟨_, Pattern.pieces?_containing needle⟩
  | endsWith => exact ⟨_, Pattern.pieces?_endingWith needle⟩
  | _ => exact absurd ho (by decide)

/-- The pattern finds something in the strings that the operator accepts. -/
theorem finds_pattern (needle text : String) :
    Pattern.Finds (op.pattern needle) text ↔ op.holds (.string needle) (.string text) = true := by
  cases op with
  | beginsWith => exact Operator.accepts_text_beginsWith.symm
  | contains => exact Operator.accepts_text_contains.symm
  | endsWith => exact Operator.accepts_text_endsWith.symm
  | _ => exact absurd ho (by decide)

end

/-! ## Rules -/

namespace Rule

variable {op negation : Operator} {needle : String}

/-- **What a rule looks for is compiled to a pattern that stands for it literally**, whatever
    characters it has.  The pattern is well-formed and finds something in the strings that the
    rule matches, and the negation of the rule, which has the same pattern, matches the others. -/
theorem compile_pattern_literal (ho : op ∈ Operator.literals)
    (hn : negation.negated? = some op) (hne : needle ≠ "") :
    ∃ pattern pieces, Pattern.pieces? pattern.toList = some pieces ∧
      (∀ limits field, limits.Permits field op →
        (comparison (.ofOperator field op (.string needle))).compile limits =
          .ok (.field field (.regex pattern))) ∧
      (∀ limits field, limits.Permits field negation →
        (comparison (.ofOperator field negation (.string needle))).compile limits =
          .ok (.field field (.notRegex pattern))) ∧
      ∀ (record : Record) (field text : String), record field = .string text →
        ((comparison (.ofOperator field op (.string needle))).matchesRecord record = true ↔
          Pattern.Finds pattern text) ∧
        ((comparison (.ofOperator field negation (.string needle))).matchesRecord record = false ↔
          Pattern.Finds pattern text) := by
  obtain ⟨hplain, hs⟩ := Operator.negated_literal ho
  have hs' := Operator.shape_negation ho hn
  obtain ⟨pieces, hpieces⟩ := pieces?_pattern ho needle
  refine ⟨op.pattern needle, pieces, hpieces, ?_, ?_, ?_⟩
  · intro limits field hp
    exact compile_ofOperator hp (hs ▸ ⟨needle, rfl, hne⟩) (Clause.ofValue_literal ho hne)
  · intro limits field hp
    exact compile_ofOperator hp (hs' ▸ ⟨needle, rfl, hne⟩) (Clause.ofValue_negation ho hn hne)
  · intro record field text hr
    rw [matchesRecord_ofOperator hplain, matchesRecord_ofNegation hn, hr, finds_pattern ho,
      Bool.not_eq_false']
    exact ⟨Iff.rfl, Iff.rfl⟩

/-- A text of characters that all mean something in patterns. -/
theorem compile_pattern_literal_anchors : ∃ pattern,
    (comparison (.ofOperator "path" .endsWith (.string "^\\$"))).compile .default =
      .ok (.field "path" (.regex pattern)) ∧
    (comparison (.ofOperator "path" .notEndsWith (.string "^\\$"))).compile .default =
      .ok (.field "path" (.notRegex pattern)) ∧
    Pattern.Finds pattern "^^\\$" ∧ ¬ Pattern.Finds pattern "^" := by
  have hf : isFieldName "path" = true := by decide +kernel
  obtain ⟨pattern, -, -, hp, hneg, hm⟩ := @compile_pattern_literal .endsWith .notEndsWith "^\\$"
    (by decide) rfl (by decide)
  refine ⟨pattern, hp .default "path" ⟨by decide, hf, rfl⟩,
    hneg .default "path" ⟨by decide, hf, rfl⟩, ?_, ?_⟩
  · exact (hm (fun _ => .string "^^\\$") "path" "^^\\$" rfl).1.1 (by decide)
  · intro h
    exact absurd ((hm (fun _ => .string "^") "path" "^" rfl).1.2 h) (by decide)

end Rule

end FilterRules
