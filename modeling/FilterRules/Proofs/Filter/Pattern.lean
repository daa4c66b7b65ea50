/-
  FilterRules — what patterns find.

  A pattern is read piece by piece.  A character without a meaning in patterns
  stands for itself, and so does one that has a meaning behind a backslash; `^`
  and `$` stand for the start and the end of a text.  Any other use of a
  character that has a meaning asks for more than the finding of a text, and is
  not read here.

  * `Piece` and `pieces?`: the pieces of a pattern;
  * `Fits` tells where pieces match, and `Finds` whether a pattern finds anything
    in a text, wherever it may start;
  * `finds_startingWith`, `finds_containing` and `finds_endingWith`: the patterns
    of a text find it where their names say, whatever characters it has.
-/
import Mathlib.Data.List.Infix
import FilterRules.Filter.Compile
import FilterRules.Matching

namespace FilterRules.Pattern

/-! ## Reading patterns -/

/-- A piece of a pattern. -/
inductive Piece where
  | char (c : Char)
  | start
  | stop
  deriving DecidableEq

/-- The pieces of a pattern that has no other pieces than these. -/
def pieces? : List Char → Option (List Piece)
  | [] => some []
  | '\\' :: c :: rest => if isSpecial c then (pieces? rest).map (.char c :: ·) else none
  | '^' :: rest => (pieces? rest).map (.start :: ·)
  | '$' :: rest => (pieces? rest).map (.stop :: ·)
  | c :: rest => if isSpecial c then none else (pieces? rest).map (.char c :: ·)

/-- `Fits ps before after`: the pieces match from the place between `before` and
    `after` on. -/
inductive Fits : List Piece → (before after : List Char) → Prop
  | done {before after} : Fits [] before after
  | char {c ps before after} : Fits ps (before ++ [c]) after →
      Fits (.char c :: ps) before (c :: after)
  | start {ps after} : Fits ps [] after → Fits (.start :: ps) [] after
  | stop {ps before} : Fits ps before [] → Fits (.stop :: ps) before []

/-- A pattern finds something in a text. -/
def Finds (pattern text : String) : Prop :=
  ∃ ps, pieces? pattern.toList = some ps ∧
    ∃ before after, text.toList = before ++ after ∧ Fits ps before after

/-! ## Escaped texts -/

theorem pieces?_plain {c : Char} (h : isSpecial c = false) (rest : List Char) :
    pieces? (c :: rest) = (pieces? rest).map (.char c :: ·) := by
  have hb : c ≠ '\\' := by rintro rfl; exact absurd h (by decide)
  have hs : c ≠ '^' := by rintro rfl; exact absurd h (by decide)
  have hd : c ≠ '$' := by rintro rfl; exact absurd h (by decide)
  rw [pieces?.eq_5 c rest (fun _ _ he => absurd he hb) hs hd, h]
  rfl

/-- An escaped text is read as its characters. -/
theorem pieces?_escape (cs : List Char) {rest : List Char} {ps : List Piece}
    (h : pieces? rest = some ps) :
    pieces? (cs.flatMap escapeChar ++ rest) = some (cs.map .char ++ ps) := by
  induction cs with
  | nil => exact h
  | cons c cs ih =>
    rw [List.flatMap_cons, List.append_assoc]
    cases hc : isSpecial c with
    | true =>
      simp only [escapeChar, hc, if_true, List.cons_append, List.nil_append, pieces?, ih]
      rfl
    | false =>
      simp only [escapeChar, hc, Bool.false_eq_true, if_false, List.cons_append, List.nil_append,
        pieces?_plain hc, ih]
      rfl

theorem pieces?_startingWith (needle : String) :
    pieces? (startingWith needle).toList = some (.start :: (needle.toList.map .char ++ [])) := by
  have h : pieces? (needle.toList.flatMap escapeChar ++ []) =
      some (needle.toList.map .char ++ []) := pieces?_escape needle.toList rfl
  rw [List.append_nil] at h
  simp only [startingWith, escape, String.toList_ofList, pieces?, h]
  rfl

theorem pieces?_containing (needle : String) :
    pieces? (containing needle).toList = some (needle.toList.map .char ++ []) := by
  have h : pieces? (needle.toList.flatMap escapeChar ++ []) =
      some (needle.toList.map .char ++ []) := pieces?_escape needle.toList rfl
  rw [List.append_nil] at h
  rw [containing, escape, String.toList_ofList, h]

theorem pieces?_endingWith (needle : String) :
    pieces? (endingWith needle).toList = some (needle.toList.map .char ++ [.stop]) := by
  rw [endingWith, escape, String.toList_ofList]
  exact pieces?_escape needle.toList rfl

/-! ## What they find -/

theorem fits_chars {cs : List Char} {ps : List Piece} {before after : List Char} :
    Fits (cs.map .char ++ ps) before after ↔
      ∃ rest, after = cs ++ rest ∧ Fits ps (before ++ cs) rest := by
  induction cs generalizing before after with
  | nil => simp
  | cons c cs ih =>
    constructor
    · intro h
      cases h with
      | char h =>
        obtain ⟨rest, rfl, h⟩ := ih.1 h
        exact ⟨rest, rfl, by rwa [List.append_cons]⟩
    · rintro ⟨rest, rfl, h⟩
      exact .char (ih.2 ⟨rest, rfl, by rwa [List.append_assoc]⟩)

/-- **The pattern of the strings that begin with a text** finds these. -/
theorem finds_startingWith (needle text : String) :
    Finds (startingWith needle) text ↔ needle.toList <+: text.toList := by
  constructor
  · rintro ⟨ps, hp, before, after, ht, h⟩
    rw [pieces?_startingWith, Option.some.injEq] at hp
    subst hp
    cases h with
    | start h =>
      obtain ⟨rest, rfl, -⟩ := fits_chars.1 h
      exact ⟨rest, ht.symm⟩
  · rintro ⟨rest, ht⟩
    exact ⟨_, pieces?_startingWith needle, [], text.toList, rfl,
      .start (fits_chars.2 ⟨rest, ht.symm, .done⟩)⟩

/-- **The pattern of the strings that contain a text** finds these. -/
theorem finds_containing (needle text : String) :
    Finds (containing needle) text ↔ needle.toList <:+: text.toList := by
  constructor
  · rintro ⟨ps, hp, before, after, ht, h⟩
    rw [pieces?_containing, Option.some.injEq] at hp
    subst hp
    obtain ⟨rest, rfl, -⟩ := fits_chars.1 h
    exact ⟨before, rest, by rw [ht, List.append_assoc]⟩
  · rintro ⟨before, rest, ht⟩
    rw [List.append_assoc] at ht
    exact ⟨_, pieces?_containing needle, before, needle.toList ++ rest, ht.symm,
      fits_chars.2 ⟨rest, rfl, .done⟩⟩

/-- **The pattern of the strings that end with a text** finds these. -/
theorem finds_endingWith (needle text : String) :
    Finds (endingWith needle) text ↔ needle.toList <:+ text.toList := by
  constructor
  · rintro ⟨ps, hp, before, after, ht, h⟩
    rw [pieces?_endingWith, Option.some.injEq] at hp
    subst hp
    obtain ⟨rest, rfl, hs⟩ := fits_chars.1 h
    cases hs with
    | stop => exact ⟨before, by rw [ht, List.append_nil]⟩
  · rintro ⟨before, ht⟩
    exact ⟨_, pieces?_endingWith needle, before, needle.toList, ht.symm,
      fits_chars.2 ⟨[], (List.append_nil _).symm, .stop .done⟩⟩

end FilterRules.Pattern

namespace FilterRules

theorem holdsText_iff {needle text : List Char} :
    holdsText needle text = true ↔ needle <:+: text := by
  induction text with
  | nil => simp [holdsText]
  | cons c rest ih =>
    rw [holdsText, Bool.or_eq_true, ih, List.isPrefixOf_iff_prefix, List.infix_cons_iff]

end FilterRules
