/-
  FilterRules — dates and the numbers of days agree.

  Years are counted from March on here, as they are where days are numbered.

  * `Cycles` splits the days of 400 years into centuries, groups of four years, years and days,
    and `yearOfEra_cycles` finds the year in it;
  * `ofMarch` is the date of a day in a year from March on;
  * `isValid_ofDayNumber` and `dayNumber_ofDayNumber`: the date of the number of a day exists
    and has that number, so that no two days have one date (`ofDayNumber_injective`).
-/
import FilterRules.Calendar.Date

namespace FilterRules.Date

/-! ## Dates that exist -/

theorem isValid_iff {d : Date} : d.isValid = true ↔
    (1 ≤ d.month ∧ d.month ≤ 12) ∧ 1 ≤ d.day ∧ d.day ≤ daysInMonth d.year d.month := by
  simp only [isValid, Bool.and_eq_true, decide_eq_true_eq, and_assoc]

theorem daysInMonth_le (year : Int) (month : Nat) : daysInMonth year month ≤ 31 := by
  unfold daysInMonth
  split
  · split <;> decide
  all_goals decide

/-! ## Cycles -/

/-- A day in 400 years: the full centuries before it, the full groups of four years in the
    century, the full years in the group and the full days in the year.  The last day of a leap
    year comes at the end of its group, which the last group of a century only has if the
    century is the last one. -/
structure Cycles (centuries groups years days : Int) : Prop where
  centuries_bounds : 0 ≤ centuries ∧ centuries ≤ 3
  groups_bounds : 0 ≤ groups ∧ groups ≤ 24
  years_bounds : 0 ≤ years ∧ years ≤ 3
  days_bounds : 0 ≤ days ∧ days ≤ 365
  leap : days = 365 → years = 3 ∧ (groups < 24 ∨ centuries = 3)

theorem exists_century {n : Int} (h0 : 0 ≤ n) (h : n < 146097) : ∃ c r : Int,
    n = 36524 * c + r ∧ (0 ≤ c ∧ c ≤ 3) ∧ (0 ≤ r ∧ r ≤ 36524) ∧ (r = 36524 → c = 3) := by
  by_cases hlast : n = 146096
  · exact ⟨3, 36524, by omega, by omega, by omega, by omega⟩
  · exact ⟨n / 36524, n % 36524, by omega, by omega, by omega, by omega⟩

theorem exists_cycles {n : Int} (h0 : 0 ≤ n) (h : n < 146097) : ∃ c q k j : Int,
    n = 36524 * c + 1461 * q + 365 * k + j ∧ Cycles c q k j := by
  obtain ⟨c, r, hn, hc, hr, hlast⟩ := exists_century h0 h
  by_cases hleap : r % 1461 = 1460
  · exact ⟨c, r / 1461, 3, 365, by omega, hc, by omega, by omega, by omega, by omega⟩
  · exact ⟨c, r / 1461, r % 1461 / 365, r % 1461 % 365, by omega, hc, by omega, by omega,
      by omega, by omega⟩

section
variable {c q k j : Int} (h : Cycles c q k j)
include h

/-- The days that leap years have more are taken out, so that all years have 365. -/
theorem yearOfEra_cycles {n : Int} (hn : n = 36524 * c + 1461 * q + 365 * k + j) :
    (n - n / 1460 + n / 36524 - n / 146096) / 365 = 100 * c + 4 * q + k := by
  obtain ⟨hc, hq, hk, hj, hl⟩ := h
  have hcentury : n / 36524 - n / 146096 = c := by
    by_cases hlast : n = 146096
    · omega
    · have : 36524 * c ≤ n ∧ n < 36524 * c + 36524 := by omega
      omega
  have hgroup : n / 1460 = 25 * c + q ∨ n / 1460 = 25 * c + q + 1 ∧ k = 3 ∧ 1 ≤ j := by
    by_cases hlt : 24 * c + q + 365 * k + j < 1460
    · exact .inl (by omega)
    · exact .inr (by omega)
  omega

/-- The days before a year. -/
theorem daysBefore_cycles (e : Int) {y : Int} (hy : y = 400 * e + (100 * c + 4 * q + k)) :
    365 * y + y / 4 - y / 100 + y / 400 = 146097 * e + 36524 * c + 1461 * q + 365 * k := by
  obtain ⟨hc, hq, hk, -, -⟩ := h
  have h4 : y / 4 = 100 * e + 25 * c + q := by omega
  have h100 : y / 100 = 4 * e + c := by omega
  have h400 : y / 400 = e := by omega
  omega

/-- Only a leap year has a day more. -/
theorem isLeapYear_cycles (e : Int) (hj : j = 365) :
    isLeapYear (400 * e + (100 * c + 4 * q + k) + 1) = true := by
  obtain ⟨hc, hq, hk, -, hl⟩ := h
  obtain ⟨rfl, hlast⟩ := hl hj
  simp only [isLeapYear, Bool.and_eq_true, Bool.or_eq_true, beq_iff_eq, bne_iff_ne, ne_eq]
  omega

end

/-! ## Months -/

/-- The date of a day of a year that starts with March. -/
def ofMarch (year days : Int) : Date :=
  let month := (5 * days + 2) / 153
  let day := days - (153 * month + 2) / 5 + 1
  if month < 10 then ⟨year, (month + 3).toNat, day.toNat⟩
  else ⟨year + 1, (month - 9).toNat, day.toNat⟩

section
variable {year days : Int} (h0 : 0 ≤ days) (h : days ≤ 365)
include h0 h

theorem dayNumber_ofMarch : (ofMarch year days).dayNumber =
    365 * year + year / 4 - year / 100 + year / 400 + days - 719468 := by
  have hm : 0 ≤ (5 * days + 2) / 153 ∧ (5 * days + 2) / 153 ≤ 11 := by omega
  have hd : (153 * ((5 * days + 2) / 153) + 2) / 5 ≤ days := by omega
  simp only [ofMarch]
  generalize (5 * days + 2) / 153 = month at hm hd
  split
  · have h3 : ¬ (month + 3).toNat ≤ 2 := by omega
    have hback : (((month + 3).toNat + 9) % 12 : Nat) = month := by omega
    simp only [dayNumber, if_neg h3, hback]
    omega
  · have h2 : (month - 9).toNat ≤ 2 := by omega
    have hback : (((month - 9).toNat + 9) % 12 : Nat) = month := by omega
    simp only [dayNumber, if_pos h2, hback, Int.add_sub_cancel]
    omega

theorem isValid_ofMarch (hleap : days = 365 → isLeapYear (year + 1) = true) :
    (ofMarch year days).isValid = true := by
  have hm : 0 ≤ (5 * days + 2) / 153 ∧ (5 * days + 2) / 153 ≤ 11 := by omega
  have hd : (153 * ((5 * days + 2) / 153) + 2) / 5 ≤ days := by omega
  have hd' : days < (153 * ((5 * days + 2) / 153 + 1) + 2) / 5 := by omega
  simp only [ofMarch]
  generalize (5 * days + 2) / 153 = month at hm hd hd'
  obtain rfl | rfl | rfl | rfl | rfl | rfl | rfl | rfl | rfl | rfl | rfl | rfl :
      month = 0 ∨ month = 1 ∨ month = 2 ∨ month = 3 ∨ month = 4 ∨ month = 5 ∨ month = 6 ∨
        month = 7 ∨ month = 8 ∨ month = 9 ∨ month = 10 ∨ month = 11 := by omega
  case inr.inr.inr.inr.inr.inr.inr.inr.inr.inr.inr =>
    -- February, which ends with the year and has 29 days if that has 366
    by_cases hl : isLeapYear (year + 1) = true
    · simp [isValid, daysInMonth, hl]
      omega
    · have : days ≠ 365 := fun he => hl (hleap he)
      simp [isValid, daysInMonth, hl]
      omega
  all_goals
    simp [isValid, daysInMonth]
    omega

end

/-! ## Days -/

/-- The date of the number of a day, year and day in the year being found by cycles. -/
theorem ofDayNumber_ofMarch (n : Int) : ∃ e c q k j : Int, Cycles c q k j ∧
    n + 719468 = 146097 * e + 36524 * c + 1461 * q + 365 * k + j ∧
    ofDayNumber n = ofMarch (400 * e + (100 * c + 4 * q + k)) j := by
  obtain ⟨c, q, k, j, hd, h⟩ := exists_cycles (n := (n + 719468) % 146097)
    (Int.emod_nonneg _ (by decide)) (Int.emod_lt_of_pos _ (by decide))
  have hy := yearOfEra_cycles h hd
  refine ⟨(n + 719468) / 146097, c, q, k, j, h, by omega, ?_⟩
  have hj : (n + 719468) % 146097 - (365 * (100 * c + 4 * q + k) + (100 * c + 4 * q + k) / 4 -
      (100 * c + 4 * q + k) / 100) = j := by
    obtain ⟨hc, hq, hk, -, -⟩ := h
    have h4 : (100 * c + 4 * q + k) / 4 = 25 * c + q := by omega
    have h100 : (100 * c + 4 * q + k) / 100 = c := by omega
    omega
  simp only [ofDayNumber, hy, hj]
  rfl

/-- **The date of the number of a day exists.** -/
theorem isValid_ofDayNumber (n : Int) : (ofDayNumber n).isValid = true := by
  obtain ⟨e, c, q, k, j, h, -, hd⟩ := ofDayNumber_ofMarch n
  rw [hd]
  exact isValid_ofMarch h.days_bounds.1 h.days_bounds.2 (isLeapYear_cycles h e)

/-- **The date of the number of a day has that number.** -/
theorem dayNumber_ofDayNumber (n : Int) : (ofDayNumber n).dayNumber = n := by
  obtain ⟨e, c, q, k, j, h, hn, hd⟩ := ofDayNumber_ofMarch n
  rw [hd, dayNumber_ofMarch h.days_bounds.1 h.days_bounds.2, daysBefore_cycles h e rfl]
  omega

theorem ofDayNumber_injective {m n : Int} (h : ofDayNumber m = ofDayNumber n) : m = n := by
  rw [← dayNumber_ofDayNumber m, h, dayNumber_ofDayNumber]

end FilterRules.Date
