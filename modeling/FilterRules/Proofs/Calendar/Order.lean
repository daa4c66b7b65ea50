/-
  FilterRules — the order of dates.

  Of two dates the one with the smaller year has the smaller number of its day, or in one year the
  one with the smaller month, or in one month the one with the smaller day.

  * `yearStart` and `monthStart` are the numbers of the days before a year and a month, where
    years start with March and months are counted on from one year to the next;
    `yearStart_leap` and `monthStart_succ` say how long these are;
  * `dayNumber_eq`: the number of a day, from its month and its place there;
  * `dayNumber_lt_iff`: days have the order of their dates.
-/
import FilterRules.Proofs.Calendar.Date

namespace FilterRules.Date

/-! ## Years and months -/

/-- The number of the day before a year that starts with March. -/
def yearStart (year : Int) : Int := 365 * year + year / 4 - year / 100 + year / 400 - 719469

/-- The number of the day before a month; the months are counted from January of the year 0. -/
def monthStart (n : Int) : Int := yearStart ((n - 2) / 12) + (153 * ((n - 2) % 12) + 2) / 5

/-- The month of a date, counted from January of the year 0. -/
def monthCount (year : Int) (month : Nat) : Int := 12 * year + month - 1

/-- A year that starts with March has the last day of February of the next one. -/
theorem yearStart_leap (year : Int) :
    yearStart year = yearStart (year - 1) + if isLeapYear year then 366 else 365 := by
  have hl : isLeapYear year = true ↔ year % 4 = 0 ∧ (year % 100 ≠ 0 ∨ year % 400 = 0) := by
    simp [isLeapYear]
  simp only [yearStart]
  split
  · next h =>
    have := hl.1 h
    omega
  · next h =>
    have := mt hl.2 h
    omega

/-- The lengths of the months but February, which repeat every five. -/
theorem daysInMonth_eq (year : Int) {month : Nat} (h1 : 1 ≤ month) (h12 : month ≤ 12)
    (h2 : month ≠ 2) : (daysInMonth year month : Int) =
      (153 * (((month + 9) % 12 : Nat) + 1) + 2) / 5 -
        (153 * ((month + 9) % 12 : Nat) + 2) / 5 := by
  obtain rfl | rfl | rfl | rfl | rfl | rfl | rfl | rfl | rfl | rfl | rfl :
      month = 1 ∨ month = 3 ∨ month = 4 ∨ month = 5 ∨ month = 6 ∨ month = 7 ∨ month = 8 ∨
        month = 9 ∨ month = 10 ∨ month = 11 ∨ month = 12 := by omega
  all_goals rfl

section
variable (year : Int) {month : Nat} (h1 : 1 ≤ month) (h12 : month ≤ 12)
include h1 h12

theorem monthStart_monthCount : monthStart (monthCount year month) =
    yearStart (if month ≤ 2 then year - 1 else year) +
      (153 * ((month + 9) % 12 : Nat) + 2) / 5 := by
  have hk : (monthCount year month - 2) % 12 = ((month + 9) % 12 : Nat) := by
    simp only [monthCount]
    omega
  have hy : (monthCount year month - 2) / 12 = if month ≤ 2 then year - 1 else year := by
    simp only [monthCount]
    split <;> omega
  rw [monthStart, hk, hy]

/-- A month ends where the next one starts. -/
theorem monthStart_succ : monthStart (monthCount year month + 1) =
    monthStart (monthCount year month) + daysInMonth year month := by
  rw [monthStart_monthCount year h1 h12]
  by_cases h2 : month = 2
  · -- February, with which the year ends
    subst h2
    have hy : (monthCount year 2 + 1 - 2) / 12 = year := by
      simp only [monthCount]
      omega
    have hk : (monthCount year 2 + 1 - 2) % 12 = 0 := by
      simp only [monthCount]
      omega
    rw [monthStart, hy, hk, yearStart_leap year, if_pos (Nat.le_refl 2), daysInMonth]
    cases isLeapYear year <;> simp <;> omega
  · have hy : (monthCount year month + 1 - 2) / 12 = if month ≤ 2 then year - 1 else year := by
      simp only [monthCount]
      split <;> omega
    have hk : (monthCount year month + 1 - 2) % 12 = ((month + 9) % 12 : Nat) + 1 := by
      simp only [monthCount]
      omega
    rw [monthStart, hy, hk, daysInMonth_eq year h1 h12 h2]
    omega

end

theorem monthStart_le_succ (n : Int) : monthStart n ≤ monthStart (n + 1) := by
  have hn : n = monthCount (n / 12) (n % 12 + 1).toNat := by
    simp only [monthCount]
    omega
  rw [hn, monthStart_succ _ (by omega) (by omega)]
  omega

/-- Months start in their order. -/
theorem monthStart_le {m n : Int} (h : m ≤ n) : monthStart m ≤ monthStart n := by
  obtain ⟨k, rfl⟩ := Int.le.dest h
  clear h
  induction k with
  | zero => exact Int.le_of_eq (congrArg monthStart (Int.add_zero m).symm)
  | succ k ih =>
    rw [Int.natCast_succ, ← Int.add_assoc]
    exact Int.le_trans ih (monthStart_le_succ (m + k))

/-! ## Days -/

section
variable {d e : Date}

/-- The number of a day is that of the day before its month and the place of the day in it. -/
theorem dayNumber_eq (h1 : 1 ≤ d.month) (h12 : d.month ≤ 12) :
    d.dayNumber = monthStart (monthCount d.year d.month) + d.day := by
  rw [monthStart_monthCount _ h1 h12]
  simp only [dayNumber, yearStart]
  omega

/-- A day of an earlier month comes before the days of a month. -/
theorem dayNumber_lt_of_month (hd : d.isValid = true) (he : e.isValid = true)
    (h : monthCount d.year d.month < monthCount e.year e.month) : d.dayNumber < e.dayNumber := by
  obtain ⟨⟨hm, hm'⟩, -, hday⟩ := isValid_iff.1 hd
  obtain ⟨⟨hn, hn'⟩, hday', -⟩ := isValid_iff.1 he
  have hs := monthStart_succ d.year hm hm'
  have hle := monthStart_le (Int.add_one_le_of_lt h)
  rw [dayNumber_eq hm hm', dayNumber_eq hn hn']
  omega

/-- **Days have the order of their dates.** -/
theorem dayNumber_lt_iff (hd : d.isValid = true) (he : e.isValid = true) :
    d.dayNumber < e.dayNumber ↔ d.year < e.year ∨ d.year = e.year ∧
      (d.month < e.month ∨ d.month = e.month ∧ d.day < e.day) := by
  obtain ⟨hm, -⟩ := isValid_iff.1 hd
  obtain ⟨hn, -⟩ := isValid_iff.1 he
  have hmonth : monthCount d.year d.month < monthCount e.year e.month ↔
      d.year < e.year ∨ d.year = e.year ∧ d.month < e.month := by
    simp only [monthCount]
    omega
  rcases Int.lt_trichotomy (monthCount d.year d.month) (monthCount e.year e.month) with h | h | h
  · have := dayNumber_lt_of_month hd he h
    have := hmonth.1 h
    omega
  · rw [dayNumber_eq hm.1 hm.2, dayNumber_eq hn.1 hn.2, h]
    simp only [monthCount] at h
    omega
  · have := dayNumber_lt_of_month he hd h
    simp only [monthCount] at h
    omega

end

end FilterRules.Date
