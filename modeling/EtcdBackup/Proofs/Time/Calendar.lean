import EtcdBackup.Time.Calendar

/-!
# Days and dates

`Date.ofDayNumber` finds the date of a day, and `Date.dayNumber` the day of a date. The year within
an era of 400 years comes out of a quotient that grows by 365 from one first of March to the next
(`yearStart_scaledDay`), and the rest is arithmetic. So every day has a valid date
(`valid_ofDayNumber`), and it is the day of that date (`dayNumber_ofDayNumber`).
-/

set_option autoImplicit false
set_option relaxedAutoImplicit false

namespace EtcdBackup.Date

/-- The days of an era before the first of March of a year of it. -/
def yearStart (y : Nat) : Nat := 365 * y + y / 4 - y / 100 + y / 400

/-- A day of an era, with the leap days before it taken out. -/
def scaledDay (n : Nat) : Nat := n - n / 1460 + n / 36524 - n / 146096

theorem scaledDay_le_succ (n : Nat) : scaledDay n ≤ scaledDay (n + 1) := by
  unfold scaledDay
  omega

theorem scaledDay_mono {m n : Nat} (h : m ≤ n) : scaledDay m ≤ scaledDay n := by
  induction h with
  | refl => exact Nat.le_refl _
  | step _ ih => exact Nat.le_trans ih (scaledDay_le_succ _)

/-- Between the starts of two years, the scaled day grows by 365. -/
theorem scaledDay_yearStart {y : Nat} (h : y < 400) :
    365 * y ≤ scaledDay (yearStart y) ∧ scaledDay (yearStart (y + 1) - 1) < 365 * (y + 1) := by
  revert y
  decide +kernel

/-- The year of a day within an era. -/
theorem yearStart_scaledDay {n : Nat} (h : n < 146097) :
    scaledDay n / 365 < 400 ∧ yearStart (scaledDay n / 365) ≤ n ∧
      n < yearStart (scaledDay n / 365 + 1) := by
  have hlt : scaledDay n / 365 < 400 := by
    unfold scaledDay
    omega
  obtain ⟨hstart, hend⟩ := scaledDay_yearStart hlt
  refine ⟨hlt, Nat.le_of_not_lt fun hbefore ↦ ?_, Nat.lt_of_not_le fun hafter ↦ ?_⟩
  · obtain ⟨y, hy⟩ : ∃ y, scaledDay n / 365 = y + 1 := by
      refine Nat.exists_eq_add_one.2 (Nat.pos_of_ne_zero fun hzero ↦ ?_)
      rw [hzero] at hbefore
      exact Nat.not_lt_zero n hbefore
    rw [hy] at hbefore hlt
    have hprevious := (scaledDay_yearStart (Nat.lt_of_succ_lt hlt)).2
    have := scaledDay_mono (Nat.le_sub_one_of_lt hbefore)
    omega
  · by_cases hlast : scaledDay n / 365 + 1 < 400
    · have hnext := (scaledDay_yearStart hlast).1
      have := scaledDay_mono hafter
      omega
    · have hyear : scaledDay n / 365 + 1 = 400 := by omega
      rw [hyear] at hafter
      exact Nat.lt_irrefl n (Nat.lt_of_lt_of_le h hafter)

/-- A year has 365 days, or 366 if its last February is that of a leap year. -/
theorem yearStart_succ {y : Nat} (h : y < 400) : yearStart (y + 1) = yearStart y + 365 ∨
    (yearStart (y + 1) = yearStart y + 366 ∧ (y + 1) % 4 = 0 ∧
      ((y + 1) % 100 ≠ 0 ∨ (y + 1) % 400 = 0)) := by
  revert y
  decide +kernel

/-- A date as it is found: the era of its day, the year within the era, and the day and the month
of the year, which begins in March. -/
structure IsFound (days : Int) (date : Date) (era : Int) (year day month : Nat) : Prop where
  days_eq : days + 719468 = era * 146097 + yearStart year + day
  year_lt : year < 400
  day_lt : yearStart year + day < yearStart (year + 1)
  month_eq : month = (5 * day + 2) / 153
  date_eq : date = ⟨year + era * 400 + if month < 10 then 0 else 1,
    if month < 10 then month + 3 else month - 9, day - (153 * month + 2) / 5 + 1⟩

namespace IsFound

variable {days era : Int} {date : Date} {year day month : Nat}

theorem day_le (h : IsFound days date era year day month) : day ≤ 365 := by
  have := h.day_lt
  have := yearStart_succ h.year_lt
  omega

theorem month_le (h : IsFound days date era year day month) : month ≤ 11 := by
  have := h.day_le
  have := h.month_eq
  omega

end IsFound

theorem isFound_ofDayNumber (days : Int) :
    ∃ era year day month, IsFound days (ofDayNumber days) era year day month := by
  let n := ((days + 719468) % 146097).toNat
  have hn : n < 146097 := by omega
  obtain ⟨hyear, hstart, hend⟩ := yearStart_scaledDay hn
  have hfdiv : Int.fdiv (days + 719468) 146097 = (days + 719468) / 146097 :=
    Int.fdiv_eq_ediv_of_nonneg _ (by decide)
  have hera : (days + 719468 - (days + 719468) / 146097 * 146097).toNat = n := by omega
  have hscaled : n - n / 1460 + n / 36524 - n / 146096 = scaledDay n := rfl
  have hyearStart : 365 * (scaledDay n / 365) + scaledDay n / 365 / 4 - scaledDay n / 365 / 100 =
      yearStart (scaledDay n / 365) := by
    unfold yearStart
    omega
  refine ⟨(days + 719468) / 146097, scaledDay n / 365, n - yearStart (scaledDay n / 365), _,
    by omega, hyear, by omega, rfl, ?_⟩
  unfold ofDayNumber
  simp only [hfdiv, hera, hscaled, hyearStart]
  have hsucc := yearStart_succ hyear
  by_cases h : (5 * (n - yearStart (scaledDay n / 365)) + 2) / 153 < 10
  · have hmonth : ¬(5 * (n - yearStart (scaledDay n / 365)) + 2) / 153 + 3 ≤ 2 := by omega
    simp [h, hmonth]
  · have hmonth : (5 * (n - yearStart (scaledDay n / 365)) + 2) / 153 - 9 ≤ 2 := by omega
    simp [h, hmonth]

/-- The day of the date of a day is that day. -/
theorem dayNumber_ofDayNumber (days : Int) : (ofDayNumber days).dayNumber = days := by
  obtain ⟨era, year, day, month, h⟩ := isFound_ofDayNumber days
  have hyear := h.year_lt
  have hdays := h.days_eq
  have hmonths := h.month_le
  have hmonth := h.month_eq
  have hfdiv : Int.fdiv (year + era * 400) 400 = era := by
    rw [Int.fdiv_eq_ediv_of_nonneg _ (by decide)]
    omega
  have hyearStart : ((yearStart year : Nat) : Int) = 365 * year + year / 4 - year / 100 := by
    unfold yearStart
    omega
  have hshifted (date : Date) (hdate : date.day = day - (153 * month + 2) / 5 + 1)
      (hmarch : (if date.month ≤ 2 then date.year - 1 else date.year) = year + era * 400)
      (hmonths : (if date.month ≤ 2 then (date.month : Int) + 9 else date.month - 3) = month) :
      date.dayNumber = days := by
    unfold dayNumber
    simp only [hmarch, hmonths, hfdiv, hdate]
    omega
  rw [h.date_eq]
  by_cases hlate : month < 10
  · have hmarch : ¬month + 3 ≤ 2 := by omega
    refine hshifted _ rfl ?_ ?_ <;> simp [hlate, hmarch]
  · have hjanuary : month - 9 ≤ 2 := by omega
    refine hshifted _ rfl ?_ ?_ <;> simp [hlate, hjanuary]
    omega

theorem isLeapYear_add_era {year : Nat} (era : Int)
    (h : (year + 1) % 4 = 0 ∧ ((year + 1) % 100 ≠ 0 ∨ (year + 1) % 400 = 0)) :
    isLeapYear (year + era * 400 + 1) := by
  unfold isLeapYear
  simp only [ne_eq, Bool.and_eq_true, Bool.or_eq_true, decide_eq_true_eq]
  omega

theorem monthLength_le (year : Int) (month : Nat) : monthLength year month ≤ 31 := by
  unfold monthLength
  split <;> (try split) <;> decide

/-- Every day has a date that exists. -/
theorem valid_ofDayNumber (days : Int) : (ofDayNumber days).Valid := by
  obtain ⟨era, year, day, month, h⟩ := isFound_ofDayNumber days
  have hday := h.day_le
  have hmonth := h.month_eq
  have hmonths : month = 0 ∨ month = 1 ∨ month = 2 ∨ month = 3 ∨ month = 4 ∨ month = 5 ∨
      month = 6 ∨ month = 7 ∨ month = 8 ∨ month = 9 ∨ month = 10 ∨ month = 11 := by omega
  rw [h.date_eq]
  rcases hmonths with rfl | rfl | rfl | rfl | rfl | rfl | rfl | rfl | rfl | rfl | rfl | rfl
  case inr.inr.inr.inr.inr.inr.inr.inr.inr.inr.inr =>
    -- The length of February depends on the year.
    refine ⟨by simp, by simp, by simp, ?_⟩
    change day - 337 + 1 ≤ if isLeapYear (year + era * 400 + 1) then 29 else 28
    have hlt := h.day_lt
    have hyear := yearStart_succ h.year_lt
    split
    case isTrue => omega
    case isFalse common =>
      have hleap := mt (@isLeapYear_add_era year era) common
      omega
  all_goals
    refine ⟨by simp, by simp, by simp, ?_⟩
    simp only [monthLength, Nat.reduceMul, Nat.reduceAdd, Nat.reduceSub, Nat.reduceDiv,
      Nat.reduceLT, ↓reduceIte]
    omega

theorem yearStart_mono {m n : Nat} (h : m ≤ n) : yearStart m ≤ yearStart n := by
  induction h with
  | refl => exact Nat.le_refl _
  | step _ ih =>
    refine Nat.le_trans ih ?_
    unfold yearStart
    omega

/-- Between two first days of January, the year is between those years. -/
theorem year_ofDayNumber {days : Int} (first : dayNumber ⟨-262143, 1, 1⟩ ≤ days)
    (last : days < dayNumber ⟨262143, 1, 1⟩) :
    -262143 ≤ (ofDayNumber days).year ∧ (ofDayNumber days).year ≤ 262142 := by
  obtain ⟨era, year, day, month, h⟩ := isFound_ofDayNumber days
  have hfirst : dayNumber ⟨-262143, 1, 1⟩ + 719468 = -656 * 146097 + yearStart 256 + 306 := by
    decide
  have hlast : dayNumber ⟨262143, 1, 1⟩ + 719468 = 655 * 146097 + yearStart 142 + 306 := by
    decide
  have hyear := h.year_lt
  have hdays := h.days_eq
  have hlt := h.day_lt
  have hmonth := h.month_eq
  have hera : yearStart (year + 1) ≤ yearStart 400 := yearStart_mono hyear
  have hend : yearStart 400 = 146097 := by decide
  have h142 : yearStart 142 = 51864 := by decide
  have h256 : yearStart 256 = 93502 := by decide
  rw [h.date_eq]
  dsimp only
  constructor
  · by_cases hbefore : year < 256
    · have : yearStart (year + 1) ≤ yearStart 256 := yearStart_mono hbefore
      omega
    · by_cases hsame : year = 256
      · subst hsame
        omega
      · omega
  · by_cases hafter : 142 < year
    · have : yearStart (142 + 1) ≤ yearStart year := yearStart_mono hafter
      have : yearStart (142 + 1) = 52229 := by decide
      omega
    · by_cases hsame : year = 142
      · subst hsame
        omega
      · omega

end EtcdBackup.Date
