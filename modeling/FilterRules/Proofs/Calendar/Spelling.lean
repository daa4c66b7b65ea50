/-
  FilterRules — how dates and times are spelled.

  * `Digits` is a run of a given number of digits, `Zone` an offset as it is spelled and
    `Spelling` all of a date and time; `Spelling.IsTime` says that the date exists and that a
    clock shows the time;
  * `readDigits_bind_iff`, `readDate_bind_iff` and `readOffset_iff`: what the readers of the
    parts take is what is spelled in this way and nothing else;
  * `readChars_iff` and `read_iff`: the texts that are read are the spellings of times.
-/
import FilterRules.Calendar.Rfc3339
import FilterRules.Proofs.Json.Numeral
import FilterRules.Proofs.Json.Scanning

namespace FilterRules.Rfc3339

open Json (EndsDigits digitsValue endsDigits_cons takeWhile_digits dropWhile_digits bind_eq_ok_iff)
open Text (byteCount byteCount_cons)

theorem length_le_byteCount (cs : List Char) : cs.length ≤ byteCount cs := by
  induction cs with
  | nil => exact Nat.le_refl 0
  | cons c cs ih =>
    have := c.utf8Size_pos
    rw [List.length_cons, byteCount_cons]
    omega

/-! ## Digits -/

/-- A run of a number of decimal digits. -/
structure Digits (count : Nat) where
  chars : List Char
  length_eq : chars.length = count
  areDigits : AreDigits chars

/-- The value of a run of digits. -/
def Digits.value {count : Nat} (d : Digits count) : Nat := digitsValue d.chars

theorem readDigits_run {ds : List Char} (hd : AreDigits ds) (n : Nat) (rest : List Char) :
    readDigits ds.length n (ds ++ rest) = .ok (Nat.ofDigitChars 10 ds n, rest) := by
  induction ds generalizing n with
  | nil => rfl
  | cons c cs ih =>
    obtain ⟨hc, hcs⟩ := List.forall_mem_cons.1 hd
    rw [List.length_cons, List.cons_append, readDigits, if_pos hc, ih hcs, Nat.ofDigitChars_cons]
    rfl

theorem readDigits_ok {count n value : Nat} {cs rest : List Char}
    (h : readDigits count n cs = .ok (value, rest)) : ∃ ds, cs = ds ++ rest ∧
      ds.length = count ∧ AreDigits ds ∧ value = Nat.ofDigitChars 10 ds n := by
  induction count generalizing n cs with
  | zero =>
    cases h
    exact ⟨[], rfl, rfl, List.forall_mem_nil _, rfl⟩
  | succ count ih =>
    cases cs with
    | nil => cases h
    | cons c cs =>
      rw [readDigits] at h
      split at h
      · next hc =>
        obtain ⟨ds, rfl, hl, hd, rfl⟩ := ih h
        refine ⟨c :: ds, rfl, by rw [List.length_cons, hl], List.forall_mem_cons.2 ⟨hc, hd⟩, ?_⟩
        rw [Nat.ofDigitChars_cons]
        rfl
      · cases h

section
variable {α : Type} {cs : List Char} {b : α}

theorem readDigits_bind_iff {count : Nat} {f : Nat × List Char → Except Fault α} :
    readDigits count 0 cs >>= f = .ok b ↔
      ∃ (d : Digits count) (rest : List Char),
        cs = d.chars ++ rest ∧ f (d.value, rest) = .ok b := by
  rw [bind_eq_ok_iff]
  constructor
  · rintro ⟨⟨value, rest⟩, hr, hf⟩
    obtain ⟨ds, rfl, hl, hd, rfl⟩ := readDigits_ok hr
    exact ⟨⟨ds, hl, hd⟩, rest, rfl, hf⟩
  · rintro ⟨⟨ds, rfl, hd⟩, rest, rfl, hf⟩
    exact ⟨_, readDigits_run hd 0 rest, hf⟩

theorem readMark_bind_iff {marks : List Char} {f : List Char → Except Fault α} :
    readMark marks cs >>= f = .ok b ↔ ∃ c ∈ marks, ∃ rest, cs = c :: rest ∧ f rest = .ok b := by
  cases cs with
  | nil => simp [readMark, bind, Except.bind]
  | cons c cs =>
    by_cases hc : c ∈ marks
    · simp [readMark, hc, bind, Except.bind]
    · simp [readMark, hc, bind, Except.bind]

end

/-! ## Dates -/

theorem readDate_bind_iff {α : Type} {cs : List Char} {b : α}
    {f : Date × List Char → Except Fault α} : readDate cs >>= f = .ok b ↔
      ∃ (year : Digits 4) (month day : Digits 2) (rest : List Char),
        cs = year.chars ++ '-' :: (month.chars ++ '-' :: (day.chars ++ rest)) ∧
        Date.isValid ⟨year.value, month.value, day.value⟩ = true ∧
        f (⟨year.value, month.value, day.value⟩, rest) = .ok b := by
  simp only [readDate, bind_assoc, readDigits_bind_iff, readMark_bind_iff, List.mem_singleton,
    exists_eq_left]
  constructor
  · rintro ⟨year, _, rfl, _, rfl, month, _, rfl, _, rfl, day, rest, rfl, h⟩
    split at h
    · next hv => exact ⟨year, month, day, rest, rfl, hv, h⟩
    · cases h
  · rintro ⟨year, month, day, rest, rfl, hv, h⟩
    refine ⟨year, _, rfl, _, rfl, month, _, rfl, _, rfl, day, rest, rfl, ?_⟩
    rw [if_pos hv]
    exact h

/-! ## Fractions -/

/-- The digits of a fraction behind a point; without digits there is no point. -/
def fractionChars : List Char → List Char
  | [] => []
  | d :: ds => '.' :: d :: ds

theorem readFraction_ok {n : Nat} {cs rest : List Char} (h : readFraction cs = .ok (n, rest)) :
    ∃ ds, AreDigits ds ∧ cs = fractionChars ds ++ rest ∧ n = nanosecondsOf ds := by
  unfold readFraction at h
  split at h
  · next cs =>
    split at h
    · cases h
    · next c cs =>
      split at h
      · next hc =>
        cases h
        refine ⟨(c :: cs).takeWhile Char.isDigit, fun _ => List.mem_takeWhile_imp, ?_, rfl⟩
        rw [List.takeWhile_cons_of_pos hc, List.dropWhile_cons_of_pos hc, fractionChars]
        simp
      · cases h
  · cases h
    exact ⟨[], List.forall_mem_nil _, rfl, rfl⟩

theorem readFraction_chars {ds rest : List Char} (hd : AreDigits ds) (hr : EndsDigits rest)
    (hp : rest.head? ≠ some '.') :
    readFraction (fractionChars ds ++ rest) = .ok (nanosecondsOf ds, rest) := by
  cases ds with
  | nil =>
    cases rest with
    | nil => rfl
    | cons c rest =>
      have hc : c ≠ '.' := by simpa using hp
      simp [fractionChars, readFraction, nanosecondsOf, hc]
  | cons d ds =>
    have ht := takeWhile_digits hd hr
    have hdrop := dropWhile_digits hd hr
    rw [List.cons_append] at ht hdrop
    rw [fractionChars, List.cons_append, List.cons_append, readFraction]
    simp only [if_pos (List.forall_mem_cons.1 hd).1, ht, hdrop]

/-! ## Offsets -/

/-- An offset as it is spelled. -/
inductive Zone where
  | zulu (letter : Char) (h : letter = 'Z' ∨ letter = 'z')
  | ahead (hours minutes : Digits 2) (h : minutes.value < 60)
  | behind (sign : Char) (hs : sign = '-' ∨ sign = '\u2212') (hours minutes : Digits 2)
      (h : minutes.value < 60)

namespace Zone

/-- No offset, as it is written. -/
def utc : Zone := .zulu 'Z' (.inl rfl)

/-- The characters of an offset. -/
def chars : Zone → List Char
  | zulu letter _ => [letter]
  | ahead hours minutes _ => '+' :: (hours.chars ++ ':' :: minutes.chars)
  | behind sign _ hours minutes _ => sign :: (hours.chars ++ ':' :: minutes.chars)

/-- The minutes by which a clock is ahead of UTC. -/
def minutes : Zone → Int
  | zulu _ _ => 0
  | ahead hours minutes _ => 60 * hours.value + minutes.value
  | behind _ _ hours minutes _ => -(60 * hours.value + minutes.value)

end Zone

section
variable {α : Type} {cs : List Char} {b : α}

theorem Digits.two_le_byteCount (d : Digits 2) (rest : List Char) :
    2 ≤ byteCount (d.chars ++ rest) := by
  have := length_le_byteCount (d.chars ++ rest)
  rw [List.length_append, d.length_eq] at this
  omega

theorem readOffsetHours_bind_iff {f : Nat × List Char → Except Fault α} :
    readOffsetHours cs >>= f = .ok b ↔
      ∃ (d : Digits 2) (rest : List Char), cs = d.chars ++ rest ∧ f (d.value, rest) = .ok b := by
  rw [readOffsetHours]
  split
  · next h =>
    simp only [bind, Except.bind, reduceCtorEq, false_iff]
    rintro ⟨d, rest, rfl, -⟩
    exact absurd h (Nat.not_lt.2 (d.two_le_byteCount rest))
  · exact readDigits_bind_iff

theorem readOffsetColon_bind_iff {f : List Char → Except Fault α} :
    readOffsetColon cs >>= f = .ok b ↔ ∃ rest, cs = ':' :: rest ∧ f rest = .ok b := by
  cases cs with
  | nil => simp [readOffsetColon, bind, Except.bind]
  | cons c cs => simp only [readOffsetColon, readMark_bind_iff, List.mem_singleton, exists_eq_left]

theorem readOffsetMinutes_bind_iff {f : Nat × List Char → Except Fault α} :
    readOffsetMinutes cs >>= f = .ok b ↔ ∃ (d : Digits 2) (rest : List Char),
      cs = d.chars ++ rest ∧ d.value < 60 ∧ f (d.value, rest) = .ok b := by
  rw [readOffsetMinutes]
  split
  · next h =>
    simp only [bind, Except.bind, reduceCtorEq, false_iff]
    rintro ⟨d, rest, rfl, -⟩
    exact absurd h (Nat.not_lt.2 (d.two_le_byteCount rest))
  · rw [bind_assoc, readDigits_bind_iff]
    refine exists_congr fun d => exists_congr fun rest => and_congr_right fun _ => ?_
    by_cases hd : d.value < 60
    · simp only [hd, if_true, true_and]
      rfl
    · simp only [hd, if_false, false_and, iff_false]
      rintro ⟨⟩

end

/-- What is behind a sign of an offset. -/
theorem readOffset_sign_iff {c : Char} (hz : ¬ (c = 'Z' ∨ c = 'z'))
    (hs : c = '+' ∨ c = '-' ∨ c = '\u2212') {offset : Int} {cs rest : List Char} :
    readOffset (c :: cs) = .ok (offset, rest) ↔ ∃ hours minutes : Digits 2,
      cs = hours.chars ++ ':' :: (minutes.chars ++ rest) ∧ minutes.value < 60 ∧
        offset = if c = '+' then (60 * hours.value + minutes.value : Int)
          else -(60 * hours.value + minutes.value) := by
  simp only [readOffset, if_neg hz, if_pos hs, readOffsetHours_bind_iff,
    readOffsetColon_bind_iff, readOffsetMinutes_bind_iff]
  constructor
  · rintro ⟨hours, _, rfl, _, rfl, minutes, _, rfl, hm, h⟩
    cases h
    exact ⟨hours, minutes, rfl, hm, rfl⟩
  · rintro ⟨hours, minutes, rfl, hm, rfl⟩
    exact ⟨hours, _, rfl, _, rfl, minutes, _, rfl, hm, rfl⟩

theorem readOffset_iff {offset : Int} {cs rest : List Char} :
    readOffset cs = .ok (offset, rest) ↔
      ∃ zone : Zone, cs = zone.chars ++ rest ∧ offset = zone.minutes := by
  constructor
  · intro h
    cases cs with
    | nil => cases h
    | cons c cs =>
      by_cases hz : c = 'Z' ∨ c = 'z'
      · rw [readOffset, if_pos hz] at h
        cases h
        exact ⟨.zulu c hz, rfl, rfl⟩
      · by_cases hs : c = '+' ∨ c = '-' ∨ c = '\u2212'
        · obtain ⟨hours, minutes, rfl, hm, rfl⟩ := (readOffset_sign_iff hz hs).1 h
          rcases hs with rfl | hs
          · refine ⟨.ahead hours minutes hm, ?_, rfl⟩
            simp [Zone.chars]
          · have hplus : c ≠ '+' := by
              rintro rfl
              simp at hs
            refine ⟨.behind c hs hours minutes hm, ?_, if_neg hplus⟩
            simp [Zone.chars]
        · rw [readOffset, if_neg hz, if_neg hs] at h
          cases h
  · rintro ⟨zone, rfl, rfl⟩
    cases zone with
    | zulu letter h => rw [Zone.chars, List.singleton_append, readOffset, if_pos h, Zone.minutes]
    | ahead hours minutes h =>
      rw [Zone.chars, List.cons_append, readOffset_sign_iff (by decide) (.inl rfl)]
      exact ⟨hours, minutes, by simp, h, rfl⟩
    | behind sign hs hours minutes h =>
      have hplus : sign ≠ '+' := by rcases hs with rfl | rfl <;> decide
      have hz : ¬ (sign = 'Z' ∨ sign = 'z') := by rcases hs with rfl | rfl <;> decide
      rw [Zone.chars, List.cons_append, readOffset_sign_iff hz (.inr hs)]
      exact ⟨hours, minutes, by simp, h, (if_neg hplus).symm⟩

/-! ## Dates and times -/

/-- A date and time as it is spelled. -/
structure Spelling where
  year : Digits 4
  month : Digits 2
  day : Digits 2
  separator : Char
  separator_mem : separator ∈ ['T', 't', ' ']
  hour : Digits 2
  minute : Digits 2
  second : Digits 2
  fraction : List Char
  fraction_areDigits : AreDigits fraction
  zone : Zone

theorem nanosecondsOf_lt {ds : List Char} (h : AreDigits ds) : nanosecondsOf ds < 1000000000 := by
  have hlen : (ds.take 9).length ≤ 9 := List.length_take_le 9 ds
  have hlt : digitsValue (ds.take 9) < 10 ^ (ds.take 9).length :=
    digitsValue_lt fun c hc => h c (List.mem_of_mem_take hc)
  calc nanosecondsOf ds
      < 10 ^ (ds.take 9).length * 10 ^ (9 - (ds.take 9).length) :=
        Nat.mul_lt_mul_of_pos_right hlt (Nat.pow_pos (by decide))
    _ = 10 ^ 9 := by rw [← Nat.pow_add, Nat.add_sub_cancel' hlen]

namespace Spelling

/-- The characters of a date and time. -/
def chars (s : Spelling) : List Char :=
  s.year.chars ++ '-' :: (s.month.chars ++ '-' :: (s.day.chars ++
    s.separator :: (s.hour.chars ++ ':' :: (s.minute.chars ++ ':' :: (s.second.chars ++
      (fractionChars s.fraction ++ s.zone.chars))))))

def text (s : Spelling) : String := String.ofList s.chars

/-- The date that is spelled. -/
def date (s : Spelling) : Date := ⟨s.year.value, s.month.value, s.day.value⟩

/-- The date exists, a clock shows the time, and the offset is less than a day. -/
structure IsTime (s : Spelling) : Prop where
  date_isValid : s.date.isValid = true
  hour_lt : s.hour.value < 24
  minute_lt : s.minute.value < 60
  second_le : s.second.value ≤ 60
  offset_lt : s.zone.minutes.natAbs < 24 * 60

/-- What is spelled, as a stamp. -/
def IsTime.stamp {s : Spelling} (h : s.IsTime) : Stamp where
  date := s.date
  hour := s.hour.value
  minute := s.minute.value
  second := s.second.value
  nanosecond := nanosecondsOf s.fraction
  offset := s.zone.minutes
  second_le := h.second_le
  nanosecond_lt := nanosecondsOf_lt s.fraction_areDigits

end Spelling

/-- Neither a fraction nor its digits go on into an offset. -/
theorem Zone.chars_head (zone : Zone) :
    EndsDigits zone.chars ∧ zone.chars.head? ≠ some '.' := by
  cases zone with
  | zulu letter h => rcases h with rfl | rfl <;> exact ⟨endsDigits_cons (by decide) _, by decide⟩
  | ahead hours minutes h => exact ⟨endsDigits_cons (by decide) _, by simp [chars]⟩
  | behind sign hs hours minutes h =>
    rcases hs with rfl | rfl <;> exact ⟨endsDigits_cons (by decide) _, by simp [chars]⟩

theorem Spelling.le_byteCount_chars (s : Spelling) : 19 ≤ byteCount s.chars := by
  refine Nat.le_trans ?_ (length_le_byteCount _)
  simp only [chars, List.length_append, List.length_cons, Digits.length_eq]
  omega

/-- **The texts that are read are the spellings of times.** -/
theorem readChars_iff {text : List Char} {stamp : Stamp} : readChars text = .ok stamp ↔
    ∃ (s : Spelling) (h : s.IsTime), s.chars = text ∧ h.stamp = stamp := by
  constructor
  · intro h
    rw [readChars] at h
    split at h
    · cases h
    · simp only [readDate_bind_iff, readMark_bind_iff, readDigits_bind_iff, List.mem_singleton,
        exists_eq_left] at h
      obtain ⟨year, month, day, _, rfl, hv, separator, hsep, _, rfl, hour, _, rfl, _, rfl,
        minute, _, rfl, _, rfl, second, _, rfl, h⟩ := h
      obtain ⟨⟨_, _⟩, hf, h⟩ := bind_eq_ok_iff.1 h
      obtain ⟨fraction, hd, rfl, rfl⟩ := readFraction_ok hf
      split at h
      · next hclock =>
        obtain ⟨⟨_, rest⟩, ho, h⟩ := bind_eq_ok_iff.1 h
        obtain ⟨zone, rfl, rfl⟩ := readOffset_iff.1 ho
        split at h
        · cases h
        · next hend =>
          obtain rfl : rest = [] := by simpa using hend
          split at h
          · next hlt =>
            cases h
            refine ⟨⟨year, month, day, separator, hsep, hour, minute, second, fraction, hd, zone⟩,
              ⟨hv, hclock.1, hclock.2.1, hclock.2.2.1, hlt⟩, ?_, rfl⟩
            rw [List.append_nil]
            rfl
          · cases h
      · cases h
  · rintro ⟨s, h, rfl, rfl⟩
    have hf : readFraction (fractionChars s.fraction ++ s.zone.chars) =
        .ok (nanosecondsOf s.fraction, s.zone.chars) :=
      readFraction_chars s.fraction_areDigits s.zone.chars_head.1 s.zone.chars_head.2
    have ho : readOffset s.zone.chars = .ok (s.zone.minutes, []) :=
      readOffset_iff.2 ⟨s.zone, (List.append_nil _).symm, rfl⟩
    rw [readChars, if_neg (Nat.not_lt.2 s.le_byteCount_chars)]
    simp only [readDate_bind_iff, readMark_bind_iff, readDigits_bind_iff, List.mem_singleton,
      exists_eq_left]
    refine ⟨s.year, s.month, s.day, _, rfl, h.date_isValid, s.separator, s.separator_mem, _, rfl,
      s.hour, _, rfl, _, rfl, s.minute, _, rfl, _, rfl, s.second, _, rfl, ?_⟩
    refine bind_eq_ok_iff.2 ⟨_, hf, ?_⟩
    rw [dif_pos ⟨h.hour_lt, h.minute_lt, h.second_le, nanosecondsOf_lt s.fraction_areDigits⟩]
    refine bind_eq_ok_iff.2 ⟨_, ho, ?_⟩
    rw [if_neg (by simp), if_pos h.offset_lt]
    rfl

theorem read_iff {text : String} {stamp : Stamp} : read text = .ok stamp ↔
    ∃ (s : Spelling) (h : s.IsTime), s.text = text ∧ h.stamp = stamp := by
  rw [read, readChars_iff]
  constructor
  · rintro ⟨s, h, hc, rfl⟩
    exact ⟨s, h, by rw [Spelling.text, hc, String.ofList_toList], rfl⟩
  · rintro ⟨s, h, rfl, rfl⟩
    exact ⟨s, h, by rw [Spelling.text, String.toList_ofList], rfl⟩

end FilterRules.Rfc3339
