/-
  FilterRules — comparing integers.

  A record holds an integer in a signed or in an unsigned word, and a rule names one that fits
  either of them.  They are compared as the integers that they are: no word wraps and no digit
  is lost, whatever the words are.

  * `Json.Integer` are the integers that a rule can name, and `FieldValue.Stores` says that a
    value is a word for an integer;
  * `Number.toInt?_ofJson`: the word that is made of an integer of a rule stands for it;
  * `equals_integer` and `acceptsNumber_integer`: the tests of a word, as tests of its integer;
  * `Operator.Asks` is what an operator asks of an integer, and `matches_integers` what rules say
    of a field whose values are words;
  * `integer_comparisons_exact` says this for single words and for lists of them.
-/
import FilterRules.Proofs.Matching
import FilterRules.Proofs.Record.Order

namespace FilterRules

/-! ## Words -/

/-- An integer that JSON can hold: it fits a signed or an unsigned word of 64 bits. -/
abbrev Json.Integer := {n : Int // -0x8000000000000000 ≤ n ∧ n < 0x10000000000000000}

/-- An integer as JSON. -/
def Json.ofInteger (n : Json.Integer) : Json := .number (.integer n.1 n.2)

/-- A value is a word, signed or unsigned, for an integer. -/
inductive FieldValue.Stores : FieldValue → Int → Prop
  | signed (n : Int64) : Stores (.number (.signed n)) n.toInt
  | unsigned (n : UInt64) : Stores (.number (.unsigned n)) n.toNat

namespace Number

/-- The word that is made of an integer of JSON is a word for it. -/
theorem toInt?_ofJson (n : Json.Integer) : (ofJson (.integer n.1 n.2)).toInt? = some n.1 := by
  obtain ⟨n, hlow, hhigh⟩ := n
  by_cases h : 0 ≤ n
  · have hn : n.toNat < 2 ^ 64 := by omega
    rw [ofJson, if_pos h]
    change some ((UInt64.ofNat n.toNat).toNat : Int) = some n
    rw [UInt64.toNat_ofNat_of_lt' hn, Int.toNat_of_nonneg h]
  · rw [ofJson, if_neg h]
    change some (Int64.ofInt n).toInt = some n
    rw [Int64.toInt_ofInt_of_le (by omega) (by omega)]

end Number

/-! ## Tests -/

section
variable {value field : FieldValue} {x : Int} {xs : List Int} (b : Json.Integer)

theorem FieldValue.Stores.number (h : value.Stores x) :
    ∃ n, value = .number n ∧ n.toInt? = some x := by
  cases h with
  | signed n => exact ⟨_, rfl, rfl⟩
  | unsigned n => exact ⟨_, rfl, rfl⟩

/-- A word equals an integer if it is a word for the integer. -/
theorem equals_integer (h : value.Stores x) : value.equals (.ofInteger b) = true ↔ x = b := by
  obtain ⟨n, rfl, hn⟩ := h.number
  rw [Json.ofInteger, FieldValue.equals, Number.compare_integers (Number.toInt?_ofJson b) hn,
    beq_iff_eq, Option.some.injEq, Int.compare_eq_eq, eq_comm]

/-- An operator orders a word as the integer of the word. -/
theorem acceptsNumber_integer (op : Operator) (h : value.Stores x) :
    op.acceptsNumber (.integer b.1 b.2) value = op.accepts (compare x b.1) := by
  obtain ⟨n, rfl, hn⟩ := h.number
  simp only [Operator.acceptsNumber, FieldValue.number?, Option.bind_some,
    Number.compare_integers hn (Number.toInt?_ofJson b)]

/-- A field passes a test on its values where an integer of its words passes the test for
    integers. -/
theorem anyItem_integers {test : FieldValue → Bool} {p : Int → Prop}
    (ht : ∀ v y, v.Stores y → (test v = true ↔ p y))
    (h : List.Forall₂ FieldValue.Stores field.candidates xs) :
    field.anyItem test = true ↔ ∃ y ∈ xs, p y := by
  rw [FieldValue.anyItem_iff]
  exact exists_iff_of_forall₂ (h.imp ht)

end

/-! ## Operators -/

namespace Operator

/-- The operators that compare with one number and are no negations. -/
def numeric : List Operator := [.equal, .less, .lessOrEqual, .greater, .greaterOrEqual]

/-- How an integer has to stand to the one that it is compared with. -/
def Asks (op : Operator) (x b : Int) : Prop :=
  match op with
  | .equal => x = b
  | .less => x < b
  | .lessOrEqual => x ≤ b
  | .greater => b < x
  | .greaterOrEqual => b ≤ x
  | _ => False

variable {field : FieldValue} {xs : List Int}
  (h : List.Forall₂ FieldValue.Stores field.candidates xs)
include h

theorem holds_integers {op : Operator} (ho : op ∈ numeric) (b : Json.Integer) :
    op.holds (.ofInteger b) field = true ↔ ∃ x ∈ xs, op.Asks x b := by
  cases op with
  | equal => exact anyItem_integers (fun v y => equals_integer b) h
  | less | lessOrEqual | greater | greaterOrEqual =>
    refine anyItem_integers (fun v y hy => ?_) h
    rw [acceptsNumber_integer b _ hy]
    simp [accepts, Asks, Int.compare_eq_lt, Int.compare_eq_gt]
  | _ => exact absurd ho (by decide)

theorem holds_isIn_integers (bs : List Json.Integer) :
    isIn.holds (.array (bs.map .ofInteger)) field = true ↔ ∃ x ∈ xs, x ∈ bs.map Subtype.val := by
  refine anyItem_integers (fun v y hy => ?_) h
  rw [List.any_map, List.any_eq_true, List.mem_map]
  exact exists_congr fun b => and_congr_right fun _ => (equals_integer b hy).trans eq_comm

end Operator

/-! ## Rules -/

namespace Rule

/-- What rules say of a field whose values are words for integers. -/
theorem matches_integers {record : Record} {field : String} {xs : List Int}
    (h : List.Forall₂ FieldValue.Stores (record field).candidates xs) (b : Json.Integer)
    (bs : List Json.Integer) :
    (∀ op ∈ Operator.numeric,
      (comparison (.ofOperator field op (.ofInteger b))).matchesRecord record = true ↔
        ∃ x ∈ xs, op.Asks x b) ∧
    ((comparison (.ofOperator field .notEqual (.ofInteger b))).matchesRecord record = true ↔
      ∀ x ∈ xs, x ≠ b) ∧
    ((comparison (.ofOperator field .isIn (.array (bs.map .ofInteger)))).matchesRecord record =
      true ↔ ∃ x ∈ xs, x ∈ bs.map Subtype.val) ∧
    ((comparison (.ofOperator field .notIn (.array (bs.map .ofInteger)))).matchesRecord record =
      true ↔ ∀ x ∈ xs, x ∉ bs.map Subtype.val) := by
  refine ⟨fun op ho => ?_, ?_, ?_, ?_⟩
  · have hn : op.negated? = none := by
      revert op
      decide
    rw [matchesRecord_ofOperator hn, Operator.holds_integers h ho]
  · rw [matchesRecord_ofNegation rfl, Bool.not_eq_true', ← Bool.not_eq_true,
      Operator.holds_integers h (by decide), not_exists]
    exact forall_congr' fun x => not_and
  · rw [matchesRecord_ofOperator rfl, Operator.holds_isIn_integers h]
  · rw [matchesRecord_ofNegation rfl, Bool.not_eq_true', ← Bool.not_eq_true,
      Operator.holds_isIn_integers h, not_exists]
    exact forall_congr' fun x => not_and

/-- **Integers are compared exactly.**  For a field that stores an integer in a word of either kind,
    a rule says what it says of the integer; for a list of such words, the negations apart, what it
    says of one of them, and the negations what they say of all. -/
theorem integer_comparisons_exact (record : Record) (field : String) (b : Json.Integer)
    (bs : List Json.Integer) :
    (∀ x, (record field).Stores x →
      (∀ op ∈ Operator.numeric,
        (comparison (.ofOperator field op (.ofInteger b))).matchesRecord record = true ↔
          op.Asks x b) ∧
      ((comparison (.ofOperator field .notEqual (.ofInteger b))).matchesRecord record = true ↔
        x ≠ b) ∧
      ((comparison (.ofOperator field .isIn (.array (bs.map .ofInteger)))).matchesRecord record =
        true ↔ x ∈ bs.map Subtype.val) ∧
      ((comparison (.ofOperator field .notIn (.array (bs.map .ofInteger)))).matchesRecord record =
        true ↔ x ∉ bs.map Subtype.val)) ∧
    ∀ items xs, record field = .array items → List.Forall₂ FieldValue.Stores items xs →
      (∀ op ∈ Operator.numeric,
        (comparison (.ofOperator field op (.ofInteger b))).matchesRecord record = true ↔
          ∃ x ∈ xs, op.Asks x b) ∧
      ((comparison (.ofOperator field .notEqual (.ofInteger b))).matchesRecord record = true ↔
        ¬ ∃ x ∈ xs, x = b) ∧
      ((comparison (.ofOperator field .isIn (.array (bs.map .ofInteger)))).matchesRecord record =
        true ↔ ∃ x ∈ xs, x ∈ bs.map Subtype.val) ∧
      ((comparison (.ofOperator field .notIn (.array (bs.map .ofInteger)))).matchesRecord record =
        true ↔ ¬ ∃ x ∈ xs, x ∈ bs.map Subtype.val) := by
  refine ⟨fun x hx => ?_, fun items xs hr hs => ?_⟩
  · have hc : (record field).candidates = [record field] := by
      obtain ⟨n, hn, -⟩ := hx.number
      rw [hn]
      rfl
    have h : List.Forall₂ FieldValue.Stores (record field).candidates [x] := by
      rw [hc]
      exact .cons hx .nil
    simpa only [List.mem_singleton, exists_eq_left, forall_eq] using matches_integers h b bs
  · have h : List.Forall₂ FieldValue.Stores (record field).candidates xs := by
      rw [hr]
      exact hs
    simpa only [not_exists, not_and] using matches_integers h b bs

/-- An integer next to its bound, both of which have the same float, and a list of a negative word
    and of one that a signed word cannot hold. -/
theorem integer_comparisons_exact_neighbours :
    let bound : Json.Integer := ⟨9007199254740992, by decide⟩
    let top : Json.Integer := ⟨18446744073709551615, by decide⟩
    let items : List FieldValue :=
      [.number (.signed (-1)), .number (.unsigned 9223372036854775808)]
    FieldValue.Stores (.number (.signed 9007199254740993)) 9007199254740993 ∧
    (comparison (.ofOperator "n" .greater (.ofInteger bound))).matchesRecord
      (fun _ => .number (.signed 9007199254740993)) = true ∧
    List.Forall₂ FieldValue.Stores items [-1, 9223372036854775808] ∧
    (comparison (.ofOperator "n" .notIn (.array [.ofInteger top]))).matchesRecord
      (fun _ => .array items) = true := by
  intro bound top items
  have hs : FieldValue.Stores (.number (.signed 9007199254740993)) 9007199254740993 :=
    .signed 9007199254740993
  have hi : List.Forall₂ FieldValue.Stores items [-1, 9223372036854775808] :=
    .cons (.signed (-1)) (.cons (.unsigned 9223372036854775808) .nil)
  obtain ⟨hnumeric, -⟩ := (integer_comparisons_exact
    (fun _ => .number (.signed 9007199254740993)) "n" bound []).1 _ hs
  obtain ⟨-, -, -, hnotIn⟩ := (integer_comparisons_exact
    (fun _ => .array items) "n" bound [top]).2 items _ rfl hi
  refine ⟨hs, (hnumeric .greater (by decide)).2 ?_, hi, hnotIn.2 ?_⟩
  · show (9007199254740992 : Int) < 9007199254740993
    decide
  · decide

end Rule

end FilterRules
