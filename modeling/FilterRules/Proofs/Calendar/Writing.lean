/-
  FilterRules — instants that are written tell what they are.

  * `padded_append_inj`: a number with zeros in front, before something that is no digit, tells
    its value;
  * `Written` are the numbers that are written for an instant, and `Written.text` their text,
    which tells them (`text_injective`);
  * `IsPlain.spelling`: numbers that a clock shows, in a year of four digits, are spelled as
    they are written, so that they are read as such (`IsPlain.readChars_text`);
  * `render_eq_iff`: two instants have one text if they are equal to the millisecond;
  * `Instant.HasPlainYear`: the year has four digits and no sign; `instant?_render`: the text of
    an instant is read as that instant, cut down to its milliseconds, if that is so, and is not
    read otherwise.
-/
import FilterRules.Calendar.Rfc3339
import FilterRules.Proofs.Calendar.Date
import FilterRules.Proofs.Calendar.Spelling

namespace FilterRules

namespace Instant

theorem eq_of_parts {t u : Instant} (hs : t.seconds = u.seconds)
    (hn : t.nanoseconds = u.nanoseconds) : t = u := by
  cases t
  cases u
  subst hs hn
  rfl

/-- The year of an instant, UTC. -/
def year (t : Instant) : Int := (Date.ofDayNumber (t.seconds / 86400)).year

/-- The year of the instant is written with four digits and no sign. -/
def HasPlainYear (t : Instant) : Prop := 0 ≤ t.year ∧ t.year ≤ 9999

instance (t : Instant) : Decidable t.HasPlainYear := inferInstanceAs (Decidable (_ ∧ _))

end Instant

namespace Rfc3339

open Json (EndsDigits digitsValue endsDigits_cons takeWhile_digits dropWhile_digits)
open Text (byteCount)

/-! ## Numbers with zeros in front -/

theorem areDigits_padded (width n : Nat) : AreDigits (padded width n) :=
  areDigits_append.2 ⟨areDigits_zeros _, areDigits_toDigits n⟩

theorem digitsValue_padded (width n : Nat) : digitsValue (padded width n) = n := by
  rw [padded, digitsValue_zeros_append, digitsValue_toDigits]

theorem length_padded {width n : Nat} (hw : 0 < width) (h : n < 10 ^ width) :
    (padded width n).length = width := by
  have := (Nat.length_toDigits_le_iff (b := 10) (n := n) (by decide) hw).2 h
  rw [padded, List.length_append, List.length_replicate]
  omega

theorem padded_cons (width n : Nat) : ∃ c cs, padded width n = c :: cs ∧ c.isDigit = true := by
  have hd := areDigits_padded width n
  cases hp : padded width n with
  | nil =>
    obtain ⟨-, hnil⟩ := List.append_eq_nil_iff.1 hp
    exact absurd hnil Nat.toDigits_ne_nil
  | cons c cs => exact ⟨c, cs, rfl, hd c (by simp [hp])⟩

/-- What comes before something that is no digit is told apart from it. -/
theorem digits_append_inj {ds es rest rest' : List Char} (hd : AreDigits ds) (he : AreDigits es)
    (hr : EndsDigits rest) (hr' : EndsDigits rest') (h : ds ++ rest = es ++ rest') :
    ds = es ∧ rest = rest' := by
  constructor
  · rw [← takeWhile_digits hd hr, h, takeWhile_digits he hr']
  · rw [← dropWhile_digits hd hr, h, dropWhile_digits he hr']

theorem padded_append_inj {width m n : Nat} {c : Char} {rest rest' : List Char}
    (hc : c.isDigit = false) (h : padded width m ++ c :: rest = padded width n ++ c :: rest') :
    m = n ∧ rest = rest' := by
  obtain ⟨hp, hr⟩ := digits_append_inj (areDigits_padded _ _) (areDigits_padded _ _)
    (endsDigits_cons hc _) (endsDigits_cons hc _) h
  refine ⟨?_, (List.cons.inj hr).2⟩
  rw [← digitsValue_padded width m, hp, digitsValue_padded]

/-- The sign of a year in its text. -/
def yearSign (year : Int) : List Char :=
  if 0 ≤ year ∧ year ≤ 9999 then [] else if year < 0 then ['-'] else ['+']

theorem renderYear_eq (year : Int) : renderYear year = yearSign year ++ padded 4 year.natAbs := by
  unfold renderYear yearSign
  split
  · next h =>
    have hn : year.toNat = year.natAbs := by omega
    rw [hn, List.nil_append]
  · split <;> rfl

theorem yearSign_eq_minus_iff {year : Int} : yearSign year = ['-'] ↔ year < 0 := by
  unfold yearSign
  split
  · simp only [List.nil_eq, reduceCtorEq, false_iff]
    omega
  · split <;> simp_all

theorem not_isDigit_of_mem_yearSign {year : Int} : ∀ c ∈ yearSign year, (!c.isDigit) = true := by
  unfold yearSign
  split
  · exact List.forall_mem_nil _
  · split <;> (rw [List.forall_mem_singleton]; decide)

/-- The sign of a year is what comes before the first digit. -/
theorem takeWhile_renderYear (year : Int) (rest : List Char) :
    (renderYear year ++ rest).takeWhile (fun c => !c.isDigit) = yearSign year := by
  obtain ⟨c, cs, hp, hc⟩ := padded_cons 4 year.natAbs
  rw [renderYear_eq, List.append_assoc, hp,
    List.takeWhile_append_of_pos not_isDigit_of_mem_yearSign, List.cons_append,
    List.takeWhile_cons_of_neg (by simp [hc]), List.append_nil]

theorem renderYear_append_inj {x y : Int} {rest rest' : List Char}
    (h : renderYear x ++ '-' :: rest = renderYear y ++ '-' :: rest') : x = y ∧ rest = rest' := by
  have hs : yearSign x = yearSign y := by
    rw [← takeWhile_renderYear x ('-' :: rest), h, takeWhile_renderYear]
  rw [renderYear_eq, renderYear_eq, hs, List.append_assoc, List.append_assoc] at h
  obtain ⟨hn, hr⟩ := padded_append_inj (by decide) (List.append_cancel_left h)
  have hneg : x < 0 ↔ y < 0 := by rw [← yearSign_eq_minus_iff, hs, yearSign_eq_minus_iff]
  exact ⟨by omega, hr⟩

/-! ## What is written -/

/-- The numbers that are written for an instant. -/
structure Written where
  date : Date
  hour : Nat
  minute : Nat
  second : Nat
  millisecond : Nat

namespace Written

/-- The text of the numbers. -/
def text (w : Written) : List Char :=
  renderYear w.date.year ++ '-' :: (padded 2 w.date.month ++ '-' :: (padded 2 w.date.day ++
    'T' :: (padded 2 w.hour ++ ':' :: (padded 2 w.minute ++ ':' :: (padded 2 w.second ++
      '.' :: (padded 3 w.millisecond ++ ['Z']))))))

/-- The numbers of an instant. -/
def ofInstant (t : Instant) : Written where
  date := Date.ofDayNumber (t.seconds / 86400)
  hour := (t.seconds % 86400).toNat / 3600
  minute := (t.seconds % 86400).toNat / 60 % 60
  second := (t.seconds % 86400).toNat % 60 + t.nanoseconds / 1000000000
  millisecond := t.nanoseconds % 1000000000 / 1000000

theorem text_ofInstant (t : Instant) : renderChars t = (ofInstant t).text := by
  simp [renderChars, text, ofInstant]

theorem text_injective {v w : Written} (h : v.text = w.text) : v = w := by
  obtain ⟨⟨y, m, d⟩, hh, mm, ss, ms⟩ := v
  obtain ⟨⟨y', m', d'⟩, hh', mm', ss', ms'⟩ := w
  obtain ⟨rfl, h⟩ := renderYear_append_inj h
  obtain ⟨rfl, h⟩ := padded_append_inj (by decide) h
  obtain ⟨rfl, h⟩ := padded_append_inj (by decide) h
  obtain ⟨rfl, h⟩ := padded_append_inj (by decide) h
  obtain ⟨rfl, h⟩ := padded_append_inj (by decide) h
  obtain ⟨rfl, h⟩ := padded_append_inj (by decide) h
  obtain ⟨rfl, -⟩ := padded_append_inj (by decide) h
  rfl

/-- The numbers of an instant tell its milliseconds.  A leap second is told from the second
    behind it, since only a leap second is written as the sixtieth. -/
theorem ofInstant_eq_iff {t u : Instant} :
    ofInstant t = ofInstant u ↔ t.toMilliseconds = u.toMilliseconds := by
  obtain ⟨s, n, hn, hl⟩ := t
  obtain ⟨s', n', hn', hl'⟩ := u
  simp only [ofInstant, Instant.toMilliseconds, mk.injEq, Instant.mk.injEq]
  constructor
  · rintro ⟨hd, hh, hm, hs, hf⟩
    have hday := Date.ofDayNumber_injective hd
    have hleap : 1000000000 ≤ n ↔ 1000000000 ≤ n' := by omega
    constructor <;> omega
  · rintro ⟨rfl, hf⟩
    refine ⟨rfl, rfl, rfl, ?_, ?_⟩ <;> omega

end Written

/-- **Two instants have one text if and only if they are equal to the millisecond.** -/
theorem render_eq_iff {t u : Instant} :
    render t = render u ↔ t.toMilliseconds = u.toMilliseconds := by
  rw [← Written.ofInstant_eq_iff, render, render, Written.text_ofInstant, Written.text_ofInstant]
  constructor
  · intro h
    exact Written.text_injective (by simpa using congrArg String.toList h)
  · intro h
    rw [h]

/-! ## Reading what is written -/

theorem readDigits_sign {c : Char} (hc : c.isDigit = false) (count n : Nat) (cs : List Char) :
    readDigits (count + 1) n (c :: cs) = .error .invalid := by
  rw [readDigits, if_neg (by simp [hc])]

/-- A number as a run of digits, with zeros in front. -/
def Digits.ofNat {k : Nat} (n : Nat) (h : n < 10 ^ (k + 1)) : Digits (k + 1) :=
  ⟨padded (k + 1) n, length_padded k.succ_pos h, areDigits_padded (k + 1) n⟩

theorem Digits.value_ofNat {k n : Nat} (h : n < 10 ^ (k + 1)) : (ofNat n h).value = n :=
  digitsValue_padded (k + 1) n

theorem nanosecondsOf_padded {n : Nat} (h : n < 1000) :
    nanosecondsOf (padded 3 n) = n * 1000000 := by
  have hl : (padded 3 n).length = 3 := length_padded (Nat.succ_pos 2) h
  have ht : (padded 3 n).take 9 = padded 3 n := List.take_of_length_le (by omega)
  have hv : (padded 3 n).foldl (fun n d => 10 * n + digitValue d) 0 = n := digitsValue_padded 3 n
  simp only [nanosecondsOf, ht, hv, hl]

namespace Written

/-- The numbers are those of a time that a clock shows, on a date that exists, in a year of four
    digits. -/
structure IsPlain (w : Written) : Prop where
  year_nonneg : 0 ≤ w.date.year
  year_le : w.date.year ≤ 9999
  date_isValid : w.date.isValid = true
  hour_lt : w.hour < 24
  minute_lt : w.minute < 60
  second_le : w.second ≤ 60
  millisecond_lt : w.millisecond < 1000

/-- The stamp of the numbers. -/
def IsPlain.stamp {w : Written} (h : w.IsPlain) : Stamp where
  date := w.date
  hour := w.hour
  minute := w.minute
  second := w.second
  nanosecond := w.millisecond * 1000000
  offset := 0
  second_le := h.second_le
  nanosecond_lt := by have := h.millisecond_lt; omega

theorem le_length_padded (width n : Nat) : width ≤ (padded width n).length := by
  simp only [padded, List.length_append, List.length_replicate]
  omega

theorem le_byteCount_text (w : Written) : 19 ≤ byteCount w.text := by
  have hyear : 4 ≤ (renderYear w.date.year).length := by
    rw [renderYear_eq, List.length_append]
    exact Nat.le_add_left_of_le (le_length_padded 4 _)
  have hmonth := le_length_padded 2 w.date.month
  have hday := le_length_padded 2 w.date.day
  have hhour := le_length_padded 2 w.hour
  have hminute := le_length_padded 2 w.minute
  have hsecond := le_length_padded 2 w.second
  refine Nat.le_trans ?_ (length_le_byteCount _)
  simp only [text, List.length_append, List.length_cons]
  omega

/-- The numbers as they are spelled. -/
def IsPlain.spelling {w : Written} (h : w.IsPlain) : Spelling where
  year := .ofNat w.date.year.toNat (by have := h.year_le; omega)
  month := .ofNat w.date.month (by
    obtain ⟨⟨-, hm⟩, -, -⟩ := Date.isValid_iff.1 h.date_isValid
    omega)
  day := .ofNat w.date.day (by
    obtain ⟨-, -, hd⟩ := Date.isValid_iff.1 h.date_isValid
    have := Date.daysInMonth_le w.date.year w.date.month
    omega)
  separator := 'T'
  separator_mem := by decide
  hour := .ofNat w.hour (by have := h.hour_lt; omega)
  minute := .ofNat w.minute (by have := h.minute_lt; omega)
  second := .ofNat w.second (by have := h.second_le; omega)
  fraction := padded 3 w.millisecond
  fraction_areDigits := areDigits_padded 3 w.millisecond
  zone := .utc

theorem IsPlain.date_spelling {w : Written} (h : w.IsPlain) : h.spelling.date = w.date := by
  have hy := h.year_nonneg
  simp only [Spelling.date, spelling, Digits.value_ofNat, Int.toNat_of_nonneg hy]

theorem IsPlain.chars_spelling {w : Written} (h : w.IsPlain) : h.spelling.chars = w.text := by
  obtain ⟨c, cs, hp, -⟩ := padded_cons 3 w.millisecond
  have hf : fractionChars (padded 3 w.millisecond) = '.' :: padded 3 w.millisecond := by
    rw [hp, fractionChars]
  rw [text, renderYear, if_pos ⟨h.year_nonneg, h.year_le⟩]
  simp only [Spelling.chars, spelling, Digits.ofNat, hf, Zone.utc, Zone.chars, List.cons_append]

theorem IsPlain.isTime {w : Written} (h : w.IsPlain) : h.spelling.IsTime where
  date_isValid := h.date_spelling ▸ h.date_isValid
  hour_lt := by
    rw [spelling, Digits.value_ofNat]
    exact h.hour_lt
  minute_lt := by
    rw [spelling, Digits.value_ofNat]
    exact h.minute_lt
  second_le := by
    rw [spelling, Digits.value_ofNat]
    exact h.second_le
  offset_lt := (by decide : (0 : Int).natAbs < 24 * 60)

/-- What is plain is read as it has been written. -/
theorem IsPlain.readChars_text {w : Written} (h : w.IsPlain) : readChars w.text = .ok h.stamp := by
  refine readChars_iff.2 ⟨h.spelling, h.isTime, h.chars_spelling, ?_⟩
  simp only [Spelling.IsTime.stamp, stamp, h.date_spelling]
  simp only [spelling, Digits.value_ofNat, nanosecondsOf_padded h.millisecond_lt]
  rfl

/-- A year that is written with a sign is not read. -/
theorem readChars_text_sign {w : Written} (h : ¬ (0 ≤ w.date.year ∧ w.date.year ≤ 9999)) :
    readChars w.text = .error .invalid := by
  have hsign : ∃ c cs, w.text = c :: cs ∧ c.isDigit = false := by
    rw [text, renderYear, if_neg h]
    by_cases hneg : w.date.year < 0
    · rw [if_pos hneg]
      exact ⟨'-', _, rfl, by decide⟩
    · rw [if_neg hneg]
      exact ⟨'+', _, rfl, by decide⟩
  obtain ⟨c, cs, ht, hc⟩ := hsign
  rw [readChars, if_neg (Nat.not_lt.2 (le_byteCount_text w)), ht]
  simp only [bind, Except.bind, readDate, readDigits_sign hc]

theorem isPlain_ofInstant {t : Instant} (h : t.HasPlainYear) : (ofInstant t).IsPlain where
  year_nonneg := h.1
  year_le := h.2
  date_isValid := Date.isValid_ofDayNumber _
  hour_lt := by simp only [ofInstant]; omega
  minute_lt := by simp only [ofInstant]; omega
  second_le := by
    have hlt := t.nanoseconds_lt
    have hleap := t.leap_at_minute_end
    simp only [ofInstant]
    omega
  millisecond_lt := by simp only [ofInstant]; omega

/-- What is read means the instant that has been written, to the millisecond. -/
theorem instant_stamp {t : Instant} (h : (ofInstant t).IsPlain) :
    h.stamp.instant = t.toMilliseconds := by
  have hlt := t.nanoseconds_lt
  have hleap := t.leap_at_minute_end
  apply Instant.eq_of_parts
  · simp only [Stamp.instant, Stamp.seconds, IsPlain.stamp, ofInstant, Date.dayNumber_ofDayNumber,
      Instant.toMilliseconds]
    omega
  · have hsecond : (ofInstant t).second = 60 ↔ 1000000000 ≤ t.nanoseconds := by
      simp only [ofInstant]
      omega
    have hmillisecond : (ofInstant t).millisecond = t.nanoseconds % 1000000000 / 1000000 := rfl
    change (if (ofInstant t).second = 60 then 1000000000 + (ofInstant t).millisecond * 1000000
      else (ofInstant t).millisecond * 1000000) = t.nanoseconds / 1000000 * 1000000
    split <;> omega

end Written

/-- **The text of an instant is read as the instant to the millisecond, if the year has four
    digits and no sign, and is not read otherwise.** -/
theorem instant?_render (t : Instant) :
    instant? (render t) = if t.HasPlainYear then some t.toMilliseconds else none := by
  rw [instant?, read, render, String.toList_ofList, Written.text_ofInstant]
  split
  · next h =>
    rw [(Written.isPlain_ofInstant h).readChars_text]
    exact congrArg some (Written.instant_stamp _)
  · next h =>
    have hsign : readChars (Written.ofInstant t).text = .error .invalid :=
      Written.readChars_text_sign h
    rw [hsign]
    rfl

end Rfc3339

end FilterRules
