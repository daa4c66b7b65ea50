/-
  FilterRules — scanning numbers that have been written.

  * `EndsNumber` says of a text that it does not carry a number on;
  * `scanNumber_whole`: the digits before the point are read to their end;
  * `Numeral.parts_eq`: a numeral whose digits (`Numeral.digits`) fit 64 bits is read to
    its last digit;
  * `Numeral.Written` says how a numeral is written, with a fraction or with an
    exponent, and `scanNumber_written` that it is read as such.
-/
import FilterRules.Proofs.Decimal.Digits

namespace FilterRules.Json

/-! ## Where a number ends -/

/-- A text that does not start with a digit. -/
def EndsDigits (rest : List Char) : Prop := ∀ c ∈ rest.head?, c.isDigit = false

/-- A text that does not carry a number on. -/
structure EndsNumber (rest : List Char) : Prop where
  digits : EndsDigits rest
  point : rest.head? ≠ some '.'
  lower : rest.head? ≠ some 'e'
  upper : rest.head? ≠ some 'E'

theorem endsNumber_nil : EndsNumber [] := ⟨by simp [EndsDigits], by simp, by simp, by simp⟩

theorem endsNumber_cons {c : Char} {cs : List Char}
    (h : c.isDigit = false ∧ c ≠ '.' ∧ c ≠ 'e' ∧ c ≠ 'E') : EndsNumber (c :: cs) :=
  ⟨by simpa [EndsDigits] using h.1, by simpa using h.2.1, by simpa using h.2.2.1,
    by simpa using h.2.2.2⟩

section
variable {ds rest : List Char}

theorem takeWhile_digits (hd : AreDigits ds) (hr : EndsDigits rest) :
    (ds ++ rest).takeWhile Char.isDigit = ds := by
  rw [List.takeWhile_append_of_pos hd]
  cases rest with
  | nil => simp
  | cons c cs => rw [List.takeWhile_cons_of_neg (by simp [hr c rfl]), List.append_nil]

theorem dropWhile_digits (hd : AreDigits ds) (hr : EndsDigits rest) :
    (ds ++ rest).dropWhile Char.isDigit = rest := by
  rw [List.dropWhile_append_of_pos hd]
  cases rest with
  | nil => rfl
  | cons c cs => rw [List.dropWhile_cons_of_neg (by simp [hr c rfl])]

/-! ## The parts of a number -/

/-- The digits before the point are read to their end. -/
theorem scanNumber_whole (hw : IsWhole ds) (hr : EndsDigits rest) (negative : Bool) :
    scanNumber negative (ds ++ rest) = scanAfterWhole negative ds rest := by
  cases hw with
  | zero =>
    cases rest with
    | nil => rfl
    | cons c cs => simp [scanNumber, hr c rfl]
  | @digits c cs h0 hd =>
    have hc : c.isDigit = true := hd c List.mem_cons_self
    have ht := takeWhile_digits hd hr
    have hdr := dropWhile_digits hd hr
    rw [List.cons_append] at ht hdr ⊢
    rw [scanNumber, if_pos hc, ht, hdr]
    simpa using h0

/-- A number without point and exponent. -/
theorem scanAfterWhole_end (hr : EndsNumber rest) {negative : Bool} {value : Number}
    (hv : Number.ofDigits? negative (digitsValue ds) = some value) :
    scanAfterWhole negative ds rest = .ok (value, rest) := by
  unfold scanAfterWhole
  split
  · exact absurd rfl hr.point
  · exact absurd rfl hr.lower
  · exact absurd rfl hr.upper
  · rw [hv]

theorem le_ofDigitChars (n : Nat) (ds : List Char) : n ≤ Nat.ofDigitChars 10 ds n := by
  rw [Nat.ofDigitChars_eq_ofDigitChars_zero]
  calc n ≤ 10 ^ ds.length * n := Nat.le_mul_of_pos_left n (Nat.pow_pos (by decide))
    _ ≤ _ := Nat.le_add_right _ _

theorem scanExponentDigits_digits {n : Nat} (hd : AreDigits ds) (hr : EndsDigits rest)
    (hn : Nat.ofDigitChars 10 ds n ≤ greatestExponent) :
    scanExponentDigits n (ds ++ rest) = (some (Nat.ofDigitChars 10 ds n), rest) := by
  induction ds generalizing n with
  | nil =>
    cases rest with
    | nil => rfl
    | cons c cs => simp [scanExponentDigits, hr c rfl]
  | cons c cs ih =>
    obtain ⟨hc, hcs⟩ := List.forall_mem_cons.1 hd
    rw [Nat.ofDigitChars_cons] at hn ⊢
    have hle := (le_ofDigitChars _ cs).trans hn
    rw [List.cons_append, scanExponentDigits, if_pos hc]
    dsimp only
    rw [if_neg (Nat.not_lt.2 hle), ih hcs hn]

/-- A number with an exponent. -/
theorem scanExponent_digits {e : Int} (he : e.natAbs ≤ greatestExponent) (hr : EndsNumber rest)
    (negative : Bool) (whole fraction : List Char) :
    scanExponent negative whole fraction
        ((if e < 0 then '-' else '+') :: (Nat.toDigits 10 e.natAbs ++ rest)) =
      finishFloat ⟨negative, whole, fraction, e⟩ rest := by
  have hd := areDigits_toDigits e.natAbs
  have hs : scanSign ((if e < 0 then '-' else '+') :: (Nat.toDigits 10 e.natAbs ++ rest)) =
      (decide (e < 0), Nat.toDigits 10 e.natAbs ++ rest) := by
    by_cases h : e < 0
    · simp [h, scanSign]
    · simp [h, scanSign]
  have hv : scanExponentDigits 0 (Nat.toDigits 10 e.natAbs ++ rest) = (some e.natAbs, rest) := by
    have hn := digitsValue_toDigits e.natAbs
    rw [digitsValue_eq] at hn
    rw [scanExponentDigits_digits hd hr.digits (hn.symm ▸ he), hn]
  have he' : (if decide (e < 0) then -(e.natAbs : Int) else e.natAbs) = e := by
    by_cases h : e < 0
    · rw [if_pos (by simpa using h)]; omega
    · rw [if_neg (by simpa using h)]; omega
  obtain ⟨c, cs, hc⟩ := List.exists_cons_of_ne_nil
    (Nat.toDigits_ne_nil : Nat.toDigits 10 e.natAbs ≠ [])
  rw [hc] at hd
  rw [hc, List.cons_append] at hs hv
  rw [scanExponent, hc, List.cons_append, hs]
  dsimp only
  rw [hd c List.mem_cons_self, hv]
  dsimp only
  rw [he']
  rfl

end

/-! ## Numerals -/

/-- The digits of a numeral before and after the point, as one number. -/
def Numeral.digits (n : Numeral) : Nat := digitsValue (n.whole ++ n.fraction)

/-- Digits whose value is within the bound are all read. -/
theorem takeDigits_eq {n : Nat} {ds : List Char}
    (h : Nat.ofDigitChars 10 ds n ≤ greatestSignificand) :
    takeDigits n ds = (Nat.ofDigitChars 10 ds n, []) := by
  induction ds generalizing n with
  | nil => rfl
  | cons c cs ih =>
    rw [Nat.ofDigitChars_cons] at h ⊢
    have hle := (le_ofDigitChars _ cs).trans h
    rw [takeDigits, if_neg (Nat.not_lt.2 hle), ih h]

/-- A numeral whose digits are within the bound is read to its last digit. -/
theorem Numeral.parts_eq {n : Numeral} (h : n.digits ≤ greatestSignificand) :
    n.parts = (n.digits, n.exponent - n.fraction.length) := by
  rw [Numeral.digits, digitsValue_eq, Nat.ofDigitChars_append] at h
  have hw := takeDigits_eq ((le_ofDigitChars _ n.fraction).trans h)
  rw [Numeral.parts, hw]
  dsimp only
  rw [takeDigits_eq h, Numeral.digits, digitsValue_eq, Nat.ofDigitChars_append]
  simp

section
variable {rest : List Char}

/-- A numeral is written in a way, apart from its sign. -/
inductive Numeral.Written : Numeral → List Char → Prop
  | fraction {negative whole fraction} : IsWhole whole → AreDigits fraction → fraction ≠ [] →
      Written ⟨negative, whole, fraction, 0⟩ (whole ++ '.' :: fraction)
  | exponent {negative whole} {e : Int} : IsWhole whole → e.natAbs ≤ greatestExponent →
      Written ⟨negative, whole, [], e⟩
        (whole ++ 'e' :: (if e < 0 then '-' else '+') :: Nat.toDigits 10 e.natAbs)
  | both {negative whole fraction} {e : Int} : IsWhole whole → AreDigits fraction →
      fraction ≠ [] → e.natAbs ≤ greatestExponent → Written ⟨negative, whole, fraction, e⟩
        (whole ++ '.' :: (fraction ++
          'e' :: (if e < 0 then '-' else '+') :: Nat.toDigits 10 e.natAbs))

/-- A numeral that is written without an exponent and with up to fifteen digits is short. -/
theorem Numeral.Written.short {n : Numeral} {text : List Char} (h : n.Written text)
    (he : 'e' ∉ text) (hl : text.countP Char.isDigit ≤ 15) :
    n.digits < 2 ^ 53 ∧ (n.exponent - n.fraction.length).natAbs ≤ 22 := by
  cases h with
  | @fraction negative whole fraction hw hd hne =>
    have hdigits : AreDigits (whole ++ fraction) := areDigits_append.2 ⟨hw.areDigits, hd⟩
    have hcount : (whole ++ '.' :: fraction).countP Char.isDigit =
        (whole ++ fraction).length := by
      rw [List.countP_append, List.countP_cons_of_neg (by decide), ← List.countP_append,
        List.countP_eq_length]
      exact hdigits
    rw [hcount] at hl
    refine ⟨?_, ?_⟩
    · calc digitsValue (whole ++ fraction) < 10 ^ (whole ++ fraction).length :=
            digitsValue_lt hdigits
        _ ≤ 10 ^ 15 := Nat.pow_le_pow_right (by decide) hl
        _ < 2 ^ 53 := by decide
    · rw [List.length_append] at hl
      dsimp only
      omega
  | exponent | both => simp at he

theorem endsDigits_cons {c : Char} (h : c.isDigit = false) (cs : List Char) :
    EndsDigits (c :: cs) := by
  simpa [EndsDigits] using h

/-- **A numeral that is written is read.** -/
theorem scanNumber_written {n : Numeral} {text : List Char} (h : n.Written text)
    (hr : EndsNumber rest) : scanNumber n.negative (text ++ rest) = finishFloat n rest := by
  cases h with
  | @fraction negative whole fraction hw hd hne =>
    rw [List.append_assoc, List.cons_append, scanNumber_whole hw (endsDigits_cons rfl _),
      scanAfterWhole, scanFraction, takeWhile_digits hd hr.digits, dropWhile_digits hd hr.digits]
    dsimp only
    rw [if_neg (by simpa using hne)]
    split
    · exact absurd rfl hr.lower
    · exact absurd rfl hr.upper
    · rfl
  | @exponent negative whole e hw he =>
    rw [List.append_assoc, List.cons_append, List.cons_append,
      scanNumber_whole hw (endsDigits_cons rfl _), scanAfterWhole,
      scanExponent_digits he hr]
  | @both negative whole fraction e hw hd hne he =>
    have hr' : EndsDigits
        ('e' :: (if e < 0 then '-' else '+') :: (Nat.toDigits 10 e.natAbs ++ rest)) :=
      endsDigits_cons rfl _
    rw [List.append_assoc, List.cons_append, List.append_assoc, List.cons_append,
      List.cons_append, scanNumber_whole hw (endsDigits_cons rfl _), scanAfterWhole,
      scanFraction, takeWhile_digits hd hr', dropWhile_digits hd hr']
    dsimp only
    rw [if_neg (by simpa using hne)]
    exact scanExponent_digits he hr negative whole fraction

end

end FilterRules.Json
