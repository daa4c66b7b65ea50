/-
  FilterRules — points in time have the order of the calendar.

  A text that is a date and time says a day, a time of day and an offset.  Texts with one offset
  are ordered by what a calendar and a clock show.

  * `Spelling.millisecond` are the first three digits of a fraction, and `nanosecondsOf_div` says
    that reading cuts a fraction there;
  * `Spelling.clock` counts the milliseconds that a calendar and a clock show, and
    `ofText?_text` the timestamp of a spelling from these and the offset;
  * `Spelling.calendar` lists what they show, and `clock_lt_iff` says that the lists have the
    order of the counts;
  * `matchesRecord_datetime`: a rule that orders dates compares timestamps;
  * `datetime_calendar_order` joins these for rules.
-/
import Mathlib.Data.List.Lex
import FilterRules.Proofs.Calendar.Order
import FilterRules.Proofs.Calendar.Writing
import FilterRules.Proofs.Matching

namespace FilterRules

namespace Rfc3339

open Json (digitsValue)

/-! ## Fractions -/

/-- Reading cuts a fraction behind its third digit, as if it had zeros at its end. -/
theorem nanosecondsOf_div {ds : List Char} (h : AreDigits ds) :
    nanosecondsOf ds / 1000000 = digitsValue ((ds ++ ['0', '0', '0']).take 3) := by
  have hlen : (ds.take 9).length = min 9 ds.length := List.length_take
  -- nine digits, with zeros behind those that are there
  let nine := ds.take 9 ++ List.replicate (9 - (ds.take 9).length) '0'
  have hnine : nanosecondsOf ds = digitsValue nine := (digitsValue_append_zeros _ _).symm
  have hdigits : AreDigits (nine.drop 3) := fun c hc =>
    areDigits_append.2 ⟨fun c hc => h c (List.mem_of_mem_take hc), areDigits_zeros _⟩ c
      (List.mem_of_mem_drop hc)
  have hrest : (nine.drop 3).length = 6 := by
    simp only [nine, List.length_drop, List.length_append, List.length_replicate]
    omega
  have htake : nine.take 3 = (ds ++ ['0', '0', '0']).take 3 := by
    change nine.take 3 = (ds ++ List.replicate 3 '0').take 3
    simp only [nine, List.take_append, List.take_take, List.take_replicate, hlen]
    congr 2
    omega
  have hlt := digitsValue_lt hdigits
  rw [hrest] at hlt
  calc nanosecondsOf ds / 1000000
      = digitsValue (nine.take 3 ++ nine.drop 3) / 1000000 := by
        rw [hnine, List.take_append_drop]
    _ = (10 ^ 6 * digitsValue (nine.take 3) + digitsValue (nine.drop 3)) / 1000000 := by
        rw [digitsValue_append, hrest]
    _ = digitsValue ((ds ++ ['0', '0', '0']).take 3) := by rw [← htake]; omega

/-- The milliseconds of a stamp; a leap second runs on behind the second before it. -/
theorem Stamp.milliseconds_instant (s : Stamp) : s.instant.milliseconds =
    86400000 * s.date.dayNumber + 3600000 * s.hour + 60000 * s.minute + 1000 * s.second +
      (s.nanosecond / 1000000 : Nat) - 60000 * s.offset := by
  have := s.second_le
  simp only [Instant.milliseconds, instant, seconds]
  split <;> omega

namespace Spelling

/-- The first three digits of the fraction, with zeros for those that are missing. -/
def millisecond (s : Spelling) : Nat := digitsValue ((s.fraction ++ ['0', '0', '0']).take 3)

/-- The milliseconds from the start of 1970 that a calendar and a clock show. -/
def clock (s : Spelling) : Int :=
  86400000 * s.date.dayNumber + 3600000 * s.hour.value + 60000 * s.minute.value +
    1000 * s.second.value + s.millisecond

/-- What a calendar and a clock show, from the year to the millisecond. -/
def calendar (s : Spelling) : List Nat :=
  [s.year.value, s.month.value, s.day.value, s.hour.value, s.minute.value, s.second.value,
    s.millisecond]

/-- What a calendar and a clock show, in UTC. -/
def atZulu (s : Spelling) : Spelling := { s with zone := .utc }

variable {s r : Spelling}

/-! ## Timestamps -/

theorem IsTime.milliseconds (h : s.IsTime) :
    h.stamp.instant.milliseconds = s.clock - 60000 * s.zone.minutes := by
  rw [Stamp.milliseconds_instant, clock, millisecond, ← nanosecondsOf_div s.fraction_areDigits]
  rfl

theorem ofText?_text (h : s.IsTime) :
    Timestamp.ofText? s.text = some ⟨s.clock - 60000 * s.zone.minutes⟩ := by
  have hr : read s.text = .ok h.stamp := read_iff.2 ⟨s, h, rfl, rfl⟩
  rw [Timestamp.ofText?, instant?, hr, ← h.milliseconds]
  rfl

theorem IsTime.atZulu (h : s.IsTime) : s.atZulu.IsTime where
  date_isValid := h.date_isValid
  hour_lt := h.hour_lt
  minute_lt := h.minute_lt
  second_le := h.second_le
  offset_lt := (by decide : (0 : Int).natAbs < 24 * 60)

/-! ## The order of the calendar -/

theorem millisecond_lt (s : Spelling) : s.millisecond < 1000 := by
  have := nanosecondsOf_lt s.fraction_areDigits
  have hns : nanosecondsOf s.fraction / 1000000 = s.millisecond :=
    nanosecondsOf_div s.fraction_areDigits
  omega

/-- **What a calendar and a clock show has the order of its parts**, the first one that differs
    deciding. -/
theorem clock_lt_iff (hs : s.IsTime) (hr : r.IsTime) (h : s.second.value ≠ 60)
    (h' : r.second.value ≠ 60) : s.clock < r.clock ↔ s.calendar < r.calendar := by
  have hlt := Date.dayNumber_lt_iff hs.date_isValid hr.date_isValid
  have hgt := Date.dayNumber_lt_iff hr.date_isValid hs.date_isValid
  obtain ⟨-, hsh, hsm, hss, -⟩ := hs
  obtain ⟨-, hrh, hrm, hrs, -⟩ := hr
  have hsms := s.millisecond_lt
  have hrms := r.millisecond_lt
  simp only [date] at hlt hgt
  simp only [clock, calendar, date, List.cons_lt_cons_iff, List.not_lt_nil, and_false, or_false]
  omega

end Spelling

end Rfc3339

/-! ## Operators -/

namespace Operator

/-- An operator that orders dates compares the timestamp of a field with the one of its value. -/
theorem holds_datetime {op : Operator} (hs : op.shape = .datetime) {text : String}
    {bound t : Timestamp} {field : FieldValue} (hb : Timestamp.ofText? text = some bound)
    (hf : field.timestamp? = some t) :
    op.holds (.string text) field = op.accepts (t.compare bound) := by
  have ha : op.holds (.string text) field = field.anyItem (op.acceptsTimestamp bound) := by
    cases op with
    | datetimeLess | datetimeLessOrEqual | datetimeGreater | datetimeGreaterOrEqual =>
      simp only [holds, hb]
    | _ => cases hs
  rw [ha]
  cases field with
  | string | timestamp => simp only [FieldValue.anyItem, acceptsTimestamp, hf]
  | _ => cases hf

theorem accepts_compare (t bound : Timestamp) :
    (datetimeLess.accepts (t.compare bound) = true ↔ t.milliseconds < bound.milliseconds) ∧
    (datetimeLessOrEqual.accepts (t.compare bound) = true ↔
      ¬ bound.milliseconds < t.milliseconds) ∧
    (datetimeGreater.accepts (t.compare bound) = true ↔ bound.milliseconds < t.milliseconds) ∧
    (datetimeGreaterOrEqual.accepts (t.compare bound) = true ↔
      ¬ t.milliseconds < bound.milliseconds) := by
  simp only [accepts, Timestamp.compare, beq_iff_eq, bne_iff_ne, ne_eq, Int.compare_eq_lt,
    Int.compare_eq_gt, and_self]

end Operator

/-! ## Rules -/

namespace Rule

open Rfc3339 (Spelling padded areDigits_padded)

/-- What a rule that orders dates says of a field that has a timestamp. -/
theorem matchesRecord_datetime {op : Operator} (hs : op.shape = .datetime) {record : Record}
    {field text : String} {bound t : Timestamp} (hb : Timestamp.ofText? text = some bound)
    (hf : (record field).timestamp? = some t) :
    (comparison (.ofOperator field op (.string text))).matchesRecord record =
      op.accepts (t.compare bound) := by
  have hplain : op.negated? = none := by
    cases op with
    | datetimeLess | datetimeLessOrEqual | datetimeGreater | datetimeGreaterOrEqual => rfl
    | _ => cases hs
  rw [matchesRecord_ofOperator hplain, Operator.holds_datetime hs hb hf]

/-- **Operators on dates order texts as a calendar and a clock do.**  The texts that are read are
    the spellings of times.  The timestamp of a spelling is the one that it has in UTC, less the
    minutes of its offset.  With one offset, and leap seconds apart, a rule matches a field by the
    order of what calendar and clock show, whether the field has the text or its timestamp. -/
theorem datetime_calendar_order :
    (∀ text, (∃ stamp, Rfc3339.read text = .ok stamp) ↔
      ∃ s : Spelling, s.IsTime ∧ s.text = text) ∧
    (∀ s : Spelling, s.IsTime → ∃ ms, Timestamp.ofText? s.atZulu.text = some ⟨ms⟩ ∧
      Timestamp.ofText? s.text = some ⟨ms - 60000 * s.zone.minutes⟩) ∧
    ∀ a b : Spelling, a.IsTime → b.IsTime → a.second.value ≠ 60 → b.second.value ≠ 60 →
      a.zone.minutes = b.zone.minutes → ∀ (record : Record) (field : String),
        (record field = .string b.text ∨
          ∃ t, Timestamp.ofText? b.text = some t ∧ record field = .timestamp t) →
        ((comparison (.ofOperator field .datetimeLess (.string a.text))).matchesRecord record =
          true ↔ b.calendar < a.calendar) ∧
        ((comparison (.ofOperator field .datetimeLessOrEqual (.string a.text))).matchesRecord
          record = true ↔ b.calendar ≤ a.calendar) ∧
        ((comparison (.ofOperator field .datetimeGreater (.string a.text))).matchesRecord record =
          true ↔ a.calendar < b.calendar) ∧
        ((comparison (.ofOperator field .datetimeGreaterOrEqual (.string a.text))).matchesRecord
          record = true ↔ a.calendar ≤ b.calendar) := by
  refine ⟨fun text => ?_, fun s hs => ?_, ?_⟩
  · simp only [Rfc3339.read_iff]
    constructor
    · rintro ⟨_, s, hs, rfl, -⟩
      exact ⟨s, hs, rfl⟩
    · rintro ⟨s, hs, rfl⟩
      exact ⟨hs.stamp, s, hs, rfl, rfl⟩
  · refine ⟨s.clock, ?_, Spelling.ofText?_text hs⟩
    have hz : s.atZulu.clock - 60000 * s.atZulu.zone.minutes = s.clock := Int.sub_zero s.clock
    rw [Spelling.ofText?_text hs.atZulu, hz]
  · intro a b ha hb has hbs hz record field hr
    have hta := Spelling.ofText?_text ha
    have htb := Spelling.ofText?_text hb
    have hf : (record field).timestamp? = some ⟨b.clock - 60000 * b.zone.minutes⟩ := by
      rcases hr with hr | ⟨t, ht, hr⟩
      · rw [hr]
        exact htb
      · rw [hr, ← htb, ht]
        rfl
    have hlt := Spelling.clock_lt_iff hb ha hbs has
    have hgt := Spelling.clock_lt_iff ha hb has hbs
    obtain ⟨h1, h2, h3, h4⟩ := Operator.accepts_compare ⟨b.clock - 60000 * b.zone.minutes⟩
      ⟨a.clock - 60000 * a.zone.minutes⟩
    rw [matchesRecord_datetime rfl hta hf, matchesRecord_datetime rfl hta hf,
      matchesRecord_datetime rfl hta hf, matchesRecord_datetime rfl hta hf, h1, h2, h3, h4, hz,
      Int.sub_lt_sub_right_iff, Int.sub_lt_sub_right_iff, hlt, hgt, not_lt, not_lt]
    exact ⟨Iff.rfl, Iff.rfl, Iff.rfl, Iff.rfl⟩

/-- A moment before the end of a leap February, before 1970. -/
def lastOfFebruary : Spelling where
  year := .ofNat 1968 (by decide)
  month := .ofNat 2 (by decide)
  day := .ofNat 29 (by decide)
  separator := 't'
  separator_mem := by decide
  hour := .ofNat 23 (by decide)
  minute := .ofNat 59 (by decide)
  second := .ofNat 59 (by decide)
  fraction := padded 4 9996
  fraction_areDigits := areDigits_padded 4 9996
  zone := .ahead (.ofNat 5 (by decide)) (.ofNat 30 (by decide)) (by decide)

/-- The start of March in the same place. -/
def firstOfMarch : Spelling where
  year := .ofNat 1968 (by decide)
  month := .ofNat 3 (by decide)
  day := .ofNat 1 (by decide)
  separator := ' '
  separator_mem := by decide
  hour := .ofNat 0 (by decide)
  minute := .ofNat 0 (by decide)
  second := .ofNat 0 (by decide)
  fraction := []
  fraction_areDigits := List.forall_mem_nil _
  zone := .ahead (.ofNat 5 (by decide)) (.ofNat 30 (by decide)) (by decide)

/-- March comes behind a leap February. -/
theorem datetime_calendar_order_leapDay :
    lastOfFebruary.text = "1968-02-29t23:59:59.9996+05:30" ∧
    firstOfMarch.text = "1968-03-01 00:00:00+05:30" ∧
    lastOfFebruary.calendar < firstOfMarch.calendar ∧
    (comparison (.ofOperator "at" .datetimeGreater (.string lastOfFebruary.text))).matchesRecord
      (fun _ => .string firstOfMarch.text) = true := by
  have ha : lastOfFebruary.IsTime := ⟨by decide, by decide, by decide, by decide, by decide⟩
  have hb : firstOfMarch.IsTime := ⟨by decide, by decide, by decide, by decide, by decide⟩
  have hlt : lastOfFebruary.calendar < firstOfMarch.calendar := by decide
  refine ⟨by decide, by decide, hlt, ?_⟩
  obtain ⟨-, -, hgreater, -⟩ := datetime_calendar_order.2.2 lastOfFebruary firstOfMarch ha hb
    (by decide) (by decide) rfl (fun _ => .string firstOfMarch.text) "at" (.inl rfl)
  exact hgreater.2 hlt

end Rule

end FilterRules
