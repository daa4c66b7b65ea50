/-
  FilterRules — scalars read back from their text.

  * `scanValue_scalar`: what is no array or object is read as a scalar;
  * `Number.Scans` says that a number is read from its text, in front of a text that does
    not carry it on; integers are (`scans_integer`), and the floats that read back
    (`scans_of_readsBack`), among them those with few digits (`readsBack_of_short`);
  * `scanChars_escape` and `scanString_quoted`: a string, character by character;
  * `render_head`: how the text of a value starts.
-/
import FilterRules.Json.Printer
import FilterRules.Json.Reader
import FilterRules.Proofs.Decimal.Notation

namespace FilterRules.Json

/-! ## Starts -/

theorem skipBlanks_cons {c : Char} (h : isBlank c = false) (cs : List Char) :
    skipBlanks (c :: cs) = c :: cs := by
  rw [skipBlanks, List.dropWhile_cons_of_neg (by simp [h])]

/-- What does not start as an array or object is read as a scalar. -/
theorem scanValue_scalar {c : Char} (hb : isBlank c = false) (ha : c ≠ '[') (ho : c ≠ '{')
    (depth : Nat) (cs : List Char) : scanValue depth (c :: cs) = scanScalar c cs := by
  unfold scanValue
  rw [skipBlanks_cons hb]
  split
  · next h => cases h
  · next h => exact absurd (List.cons.inj h).1 ha
  · next h => exact absurd (List.cons.inj h).1 ho
  · next h => obtain ⟨rfl, rfl⟩ := List.cons.inj h; rfl

/-! ## Numbers -/

theorem ne_of_isDigit {c d : Char} (hc : c.isDigit = true) (hd : d.isDigit = false) : c ≠ d := by
  rintro rfl
  rw [hc] at hd
  cases hd

/-- A digit starts nothing but a number. -/
theorem not_special_of_isDigit {c : Char} (h : c.isDigit = true) :
    isBlank c = false ∧ c ≠ '[' ∧ c ≠ '{' ∧ c ≠ ']' := by
  refine ⟨?_, ne_of_isDigit h rfl, ne_of_isDigit h rfl, ne_of_isDigit h rfl⟩
  simp only [isBlank, Bool.or_eq_false_iff, beq_eq_false_iff_ne]
  exact ⟨⟨⟨ne_of_isDigit h rfl, ne_of_isDigit h rfl⟩, ne_of_isDigit h rfl⟩, ne_of_isDigit h rfl⟩

theorem scanScalar_digit {c : Char} (h : c.isDigit = true) (cs : List Char) :
    scanScalar c cs = (scanNumber false (c :: cs)).map (Prod.map .number id) := by
  rw [scanScalar, if_neg (ne_of_isDigit h rfl), if_neg (ne_of_isDigit h rfl),
    if_neg (ne_of_isDigit h rfl), if_neg (ne_of_isDigit h rfl), if_neg (ne_of_isDigit h rfl),
    if_pos h]

/-- A number is read with its sign. -/
theorem scanValue_signed {c : Char} (hc : c.isDigit = true) (negative : Bool) (text : List Char)
    (depth : Nat) : scanValue depth (if negative then '-' :: c :: text else c :: text) =
      (scanNumber negative (c :: text)).map (Prod.map .number id) := by
  cases negative with
  | true =>
    rw [if_pos rfl, scanValue_scalar (by decide) (by decide) (by decide)]
    rfl
  | false =>
    obtain ⟨hb, ha, ho, -⟩ := not_special_of_isDigit hc
    rw [if_neg (by decide), scanValue_scalar hb ha ho, scanScalar_digit hc]

theorem isWhole_cons {ds : List Char} (h : IsWhole ds) :
    ∃ c cs, ds = c :: cs ∧ c.isDigit = true := by
  have ha := h.areDigits
  cases h with
  | zero => exact ⟨_, _, rfl, rfl⟩
  | @digits c cs _ _ => exact ⟨c, cs, rfl, ha c List.mem_cons_self⟩

theorem written_cons {n : Numeral} {text : List Char} (h : n.Written text) :
    ∃ c cs, text = c :: cs ∧ c.isDigit = true := by
  cases h with
  | fraction hw | exponent hw | both hw =>
    obtain ⟨c, cs, rfl, hc⟩ := isWhole_cons hw
    exact ⟨c, _, rfl, hc⟩

/-- The text of a number is a sign and a text that starts with a digit. -/
theorem number_render (n : Number) : ∃ (negative : Bool) (c : Char) (text : List Char),
    n.render = (if negative then '-' :: c :: text else c :: text) ∧ c.isDigit = true := by
  cases n with
  | integer n h =>
    obtain ⟨c, cs, hd, hc⟩ := isWhole_cons (isWhole_toDigits n.natAbs)
    exact ⟨decide (n < 0), c, cs, by simp [Number.render, Number.renderInt, hd], hc⟩
  | float x hf =>
    obtain ⟨n, text, ht, -, hw, -⟩ := Decimal.render_nearest hf
    obtain ⟨c, cs, rfl, hc⟩ := written_cons hw
    exact ⟨n.negative, c, cs, ht, hc⟩

/-- A number is read from its text, whatever comes behind it that does not carry it on. -/
def Number.Scans (n : Number) : Prop :=
  ∀ rest, EndsNumber rest → ∀ depth, scanValue depth (n.render ++ rest) = .ok (.number n, rest)

theorem ofDigits_natAbs (n : Int) (h : -0x8000000000000000 ≤ n ∧ n < 0x10000000000000000) :
    Number.ofDigits? (decide (n < 0)) n.natAbs = some (.integer n h) := by
  by_cases hn : n < 0
  · have h0 : n.natAbs ≠ 0 := by omega
    have he : -(n.natAbs : Int) = n := by omega
    rw [Number.ofDigits?, if_pos (by simpa using hn), if_neg h0, he, Number.ofInt?, dif_pos h]
  · have he : (n.natAbs : Int) = n := by omega
    rw [Number.ofDigits?, if_neg (by simpa using hn), he, Number.ofInt?, dif_pos h]

/-- **An integer is read from its text.** -/
theorem scans_integer (n : Int) (h : -0x8000000000000000 ≤ n ∧ n < 0x10000000000000000) :
    (Number.integer n h).Scans := by
  intro rest hr depth
  have hw := isWhole_toDigits n.natAbs
  have hv := ofDigits_natAbs n h
  rw [← digitsValue_toDigits n.natAbs] at hv
  obtain ⟨c, cs, hd, hc⟩ := isWhole_cons hw
  have ht : (Number.integer n h).render ++ rest =
      if decide (n < 0) then '-' :: c :: (cs ++ rest) else c :: (cs ++ rest) := by
    rw [Number.render, Number.renderInt, hd]
    by_cases hn : n < 0 <;> simp [hn]
  rw [ht, scanValue_signed hc, ← List.cons_append, ← hd, scanNumber_whole hw hr.digits,
    scanAfterWhole_end hr hv]
  rfl

/-- A numeral is read with its sign. -/
theorem scanValue_written {n : Numeral} {text rest : List Char} (hw : n.Written text)
    (hr : EndsNumber rest) (depth : Nat) :
    scanValue depth ((if n.negative then '-' :: text else text) ++ rest) =
      (finishFloat n rest).map (Prod.map .number id) := by
  obtain ⟨c, cs, rfl, hc⟩ := written_cons hw
  have ht : (if n.negative then '-' :: c :: cs else c :: cs) ++ rest =
      if n.negative then '-' :: c :: (cs ++ rest) else c :: (cs ++ rest) := by
    cases n.negative <;> rfl
  rw [ht, scanValue_signed hc, ← List.cons_append, scanNumber_written hw hr]

/-! ## Floats -/

theorem read_toText (json : Json) : read json.toText = readDepth nestingLimit json.render := by
  rw [read, toText, String.toList_ofList]

/-- A number reads back from the text that is written for it. -/
def Number.ReadsBack (n : Number) : Prop := read (toText (.number n)) = .ok (.number n)

section
variable {x : Binary64} {hf : x.isFinite = true} {n : Numeral} {text : List Char}

/-- A float reads back if the numeral that is written for it is read as the float. -/
theorem readsBack_iff (ht : (Number.float x hf).render = if n.negative then '-' :: text else text)
    (hw : n.Written text) :
    (Number.float x hf).ReadsBack ↔ n.value? = some (.float x hf) := by
  have hs := scanValue_written hw endsNumber_nil nestingLimit
  rw [List.append_nil, ← ht] at hs
  rw [Number.ReadsBack, read_toText, render, readDepth, hs, finishFloat]
  cases n.value? with
  | none => exact ⟨nofun, nofun⟩
  | some value =>
    change Except.ok (Json.number value) = Except.ok (Json.number (.float x hf)) ↔ _
    rw [Except.ok.injEq, number.injEq, Option.some.injEq]

/-- **A float that reads back is read, whatever comes behind it.** -/
theorem scans_of_readsBack (h : (Number.float x hf).ReadsBack) : (Number.float x hf).Scans := by
  intro rest hr depth
  obtain ⟨n, text, ht, -, hw, -⟩ := Decimal.render_nearest hf
  rw [Number.render, ht, scanValue_written hw hr, finishFloat, (readsBack_iff ht hw).1 h]
  rfl

/-- **A float that is written without an exponent and with up to fifteen digits reads back.** -/
theorem readsBack_of_short (he : 'e' ∉ (Number.float x hf).render)
    (hl : (Number.float x hf).render.countP Char.isDigit ≤ 15) :
    (Number.float x hf).ReadsBack := by
  obtain ⟨n, text, ht, hn, hw, hm⟩ := Decimal.render_nearest hf
  have hs : 'e' ∉ text ∧ text.countP Char.isDigit ≤ 15 := by
    rw [Number.render, ht] at he hl
    cases hneg : n.negative with
    | true => simpa [hneg] using And.intro he hl
    | false => simpa [hneg] using And.intro he hl
  obtain ⟨hd, hexp⟩ := hw.short hs.1 hs.2
  exact (readsBack_iff ht hw).2 (Decimal.value_of_short hf hn hd hexp hm)

end

-- one with sixteen digits need not: `0.9999999999999999` is read as `1.0`
example : ¬ (Number.float ⟨0x3fefffffffffffff⟩ rfl).ReadsBack := by
  unfold Number.ReadsBack
  decide +kernel

/-! ## Strings -/

theorem hexUnit_control : ∀ n < 32, hexUnit? '0' '0' (hexDigit (n / 16)) (hexDigit (n % 16)) =
    some n ∧ isLowSurrogate n = false ∧ isHighSurrogate n = false := by decide

theorem scanChars_short {c e : Char} (hu : c ≠ 'u') (h : shortEscape? c = some e)
    (rest : List Char) : scanChars ('\\' :: c :: rest) = consScan e (scanChars rest) := by
  rw [scanChars]
  · rw [h]
  all_goals simp [hu]

theorem scanChars_control {c : Char} (h : c.toNat < 32) (rest : List Char) :
    scanChars ('\\' :: 'u' :: '0' :: '0' :: hexDigit (c.toNat / 16) :: hexDigit (c.toNat % 16) ::
      rest) = consScan c (scanChars rest) := by
  obtain ⟨hu, hl, hh⟩ := hexUnit_control c.toNat h
  rw [scanChars, hu]
  simp [hl, hh, Char.ofNat_toNat]

theorem scanChars_plain {c : Char} (hq : c ≠ '"') (hb : c ≠ '\\') (h : ¬ c.toNat < 32)
    (rest : List Char) : scanChars (c :: rest) = consScan c (scanChars rest) := by
  rw [scanChars]
  · rw [if_neg h]
  all_goals simp [hq, hb]

/-- A character reads back from its text inside a string. -/
theorem scanChars_escape (c : Char) (rest : List Char) :
    scanChars (escape c ++ rest) = consScan c (scanChars rest) := by
  unfold escape
  split_ifs with hq hb h8 hc hn hr ht h
  · subst hq; exact scanChars_short (by decide) rfl rest
  · subst hb; exact scanChars_short (by decide) rfl rest
  · subst h8; exact scanChars_short (by decide) rfl rest
  · subst hc; exact scanChars_short (by decide) rfl rest
  · subst hn; exact scanChars_short (by decide) rfl rest
  · subst hr; exact scanChars_short (by decide) rfl rest
  · subst ht; exact scanChars_short (by decide) rfl rest
  · exact scanChars_control h rest
  · exact scanChars_plain hq hb h rest

theorem scanChars_quoted (cs rest : List Char) :
    scanChars (cs.flatMap escape ++ '"' :: rest) = .ok (cs, rest) := by
  induction cs with
  | nil => rw [List.flatMap_nil, List.nil_append, scanChars]
  | cons c cs ih =>
    rw [List.flatMap_cons, List.append_assoc, scanChars_escape, ih]
    rfl

/-- **A string reads back from its text.** -/
theorem scanString_quoted (s : String) (rest : List Char) :
    scanString (s.toList.flatMap escape ++ '"' :: rest) = .ok (s, rest) := by
  rw [scanString, scanChars_quoted]
  simp

theorem quote_append (s : String) (rest : List Char) :
    quote s ++ rest = '"' :: (s.toList.flatMap escape ++ '"' :: rest) := by
  simp [quote]

theorem scanValue_string (s : String) (rest : List Char) (depth : Nat) :
    scanValue depth (quote s ++ rest) = .ok (.string s, rest) := by
  rw [quote_append, scanValue_scalar (by decide) (by decide) (by decide)]
  change (scanString _).map _ = _
  rw [scanString_quoted]
  rfl

/-! ## Words -/

theorem scanValue_null (rest : List Char) (depth : Nat) :
    scanValue depth (Json.null.render ++ rest) = .ok (.null, rest) := by
  rw [render, List.cons_append, scanValue_scalar (by decide) (by decide) (by decide)]
  rfl

theorem scanValue_bool (b : Bool) (rest : List Char) (depth : Nat) :
    scanValue depth ((Json.bool b).render ++ rest) = .ok (.bool b, rest) := by
  cases b <;>
    (rw [render, List.cons_append, scanValue_scalar (by decide) (by decide) (by decide)]; rfl)

/-! ## Starts of texts -/

/-- The text of a value starts with no blank and no end of an array. -/
theorem render_head (json : Json) :
    ∃ c cs, json.render = c :: cs ∧ isBlank c = false ∧ c ≠ ']' := by
  unfold render
  split
  all_goals try exact ⟨_, _, rfl, by decide, by decide⟩
  next n =>
    obtain ⟨negative, c, text, hn, hc⟩ := number_render n
    cases negative with
    | true => exact ⟨_, _, hn, by decide, by decide⟩
    | false =>
      obtain ⟨hb, -, -, he⟩ := not_special_of_isDigit hc
      exact ⟨_, _, hn, hb, he⟩

end FilterRules.Json
