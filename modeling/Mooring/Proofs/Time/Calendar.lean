import Mooring.Time.Instant

set_option autoImplicit false

/-!
# Days and dates

Every day has one date that leads back to it (`toDays_ofDays`), and the date is one of the calendar
(`isValid_ofDays`). An era of 400 years that begin in March is made of centuries, cycles of four
years, years and days, each but the last of a length of its own (`exists_daySplit`); in these parts
the formula for the year can be checked.
-/

namespace Mooring.Date

/-! ## Days of an era -/

/-- A day of an era: the century, the cycle of four years, the year and the day in it. Only the
last year of a cycle may have a day more, and that of the last cycle only in the last century. -/
structure DaySplit (day century cycle year rest : Nat) : Prop where
  century_le : century ≤ 3
  cycle_le : cycle ≤ 24
  year_le : year ≤ 3
  rest_le : rest ≤ 365
  day_eq : day = 36524 * century + 1461 * cycle + 365 * year + rest
  leap : rest = 365 → year = 3 ∧ (cycle = 24 → century = 3)

theorem exists_daySplit {day : Nat} (h : day < 146097) :
    ∃ century cycle year rest, DaySplit day century cycle year rest := by
  obtain ⟨century, hcentury⟩ : ∃ century, century = min 3 (day / 36524) := ⟨_, rfl⟩
  obtain ⟨inCentury, hinCentury⟩ : ∃ n, n = day - 36524 * century := ⟨_, rfl⟩
  obtain ⟨cycle, hcycle⟩ : ∃ cycle, cycle = inCentury / 1461 := ⟨_, rfl⟩
  obtain ⟨inCycle, hinCycle⟩ : ∃ n, n = inCentury - 1461 * cycle := ⟨_, rfl⟩
  obtain ⟨year, hyear⟩ : ∃ year, year = min 3 (inCycle / 365) := ⟨_, rfl⟩
  refine ⟨century, cycle, year, inCycle - 365 * year, ?_⟩
  have hinCentury' : inCentury ≤ 36524 ∧ (inCentury = 36524 → century = 3) ∧
      day = 36524 * century + inCentury := by omega
  have hinCycle' : inCycle ≤ 1460 ∧ inCentury = 1461 * cycle + inCycle := by omega
  constructor <;> omega

/-- The year of an era in which a day falls. -/
def yearOfEra (day : Nat) : Nat :=
  (day - day / 1460 + day / 36524 - day / 146096) / 365

/-- The days of an era before a year. -/
def daysBefore (year : Nat) : Nat :=
  year * 365 + year / 4 - year / 100

section Split

variable {day century cycle year rest : Nat}

theorem DaySplit.yearOfEra (h : DaySplit day century cycle year rest) :
    yearOfEra day = 100 * century + 4 * cycle + year := by
  obtain ⟨hcentury, hcycle, hyear, hrest, hday, hleap⟩ := h
  have hlast : day / 146096 = if day = 146096 then 1 else 0 := by
    split <;> omega
  have hcenturies : day / 36524 = century + if day = 146096 then 1 else 0 := by
    split <;> omega
  -- the years of 365 days run ahead of the cycles by a day at most
  have hcycles : day / 1460 = 25 * century + cycle +
      if 1460 ≤ 24 * century + cycle + 365 * year + rest then 1 else 0 := by
    split <;> omega
  unfold Date.yearOfEra
  rw [hlast, hcenturies, hcycles]
  split <;> split <;> omega

theorem DaySplit.daysBefore (h : DaySplit day century cycle year rest) :
    daysBefore (100 * century + 4 * cycle + year) + rest = day := by
  obtain ⟨hcentury, hcycle, hyear, hrest, hday, hleap⟩ := h
  unfold Date.daysBefore
  omega

end Split

/-- A day of an era falls in one of its years, and has a number in it. -/
theorem yearOfEra_le {day : Nat} (h : day < 146097) : yearOfEra day ≤ 399 := by
  obtain ⟨century, cycle, year, rest, hsplit⟩ := exists_daySplit h
  have hyear := hsplit.yearOfEra
  obtain ⟨hcentury, hcycle, hle, -, -, -⟩ := hsplit
  omega

theorem daysBefore_yearOfEra_le {day : Nat} (h : day < 146097) :
    daysBefore (yearOfEra day) ≤ day := by
  obtain ⟨century, cycle, year, rest, hsplit⟩ := exists_daySplit h
  have hbefore := hsplit.daysBefore
  rw [hsplit.yearOfEra]
  omega

theorem dayOfYear_le {day : Nat} (h : day < 146097) : day - daysBefore (yearOfEra day) ≤ 365 := by
  obtain ⟨century, cycle, year, rest, hsplit⟩ := exists_daySplit h
  have hbefore := hsplit.daysBefore
  have hrest := hsplit.rest_le
  rw [hsplit.yearOfEra]
  omega

/-- A year with a day more, which begins in March, ends in a leap year. -/
theorem leap_of_dayOfYear_eq {day : Nat} (h : day < 146097)
    (hlast : day - daysBefore (yearOfEra day) = 365) :
    yearOfEra day % 4 = 3 ∧ (yearOfEra day % 100 = 99 → yearOfEra day = 399) := by
  obtain ⟨century, cycle, year, rest, hsplit⟩ := exists_daySplit h
  have hbefore := hsplit.daysBefore
  rw [hsplit.yearOfEra] at hlast ⊢
  obtain ⟨hcentury, hcycle, hyear, -, -, hleap⟩ := hsplit
  obtain ⟨rfl, hlastCycle⟩ := hleap (by omega)
  omega

/-! ## Dates of a year -/

/-- The date of a day of a year that begins in March. -/
def ofMarchDay (year : Int) (day : Nat) : Date :=
  let m := (5 * day + 2) / 153
  let month := if m < 10 then m + 3 else m - 9
  ⟨year + (if month ≤ 2 then 1 else 0), month, day - (153 * m + 2) / 5 + 1⟩

/-- A date by the number of its month, counted from March. -/
theorem exists_ofMarchDay_eq (year : Int) {day : Nat} (h : day ≤ 365) :
    ∃ m, m ≤ 11 ∧ m = (5 * day + 2) / 153 ∧ ofMarchDay year day =
      ⟨year + (if (m + 2) % 12 + 1 ≤ 2 then 1 else 0), (m + 2) % 12 + 1,
        day - (153 * m + 2) / 5 + 1⟩ := by
  refine ⟨(5 * day + 2) / 153, by omega, rfl, ?_⟩
  have hmonth : (if (5 * day + 2) / 153 < 10 then (5 * day + 2) / 153 + 3
      else (5 * day + 2) / 153 - 9) = ((5 * day + 2) / 153 + 2) % 12 + 1 := by
    split <;> omega
  unfold ofMarchDay
  simp only [hmonth]

theorem toDays_ofMarchDay (year : Int) {day : Nat} (h : day ≤ 365) :
    (ofMarchDay year day).toDays = year / 400 * 146097 + (year - year / 400 * 400) * 365 +
      (year - year / 400 * 400) / 4 - (year - year / 400 * 400) / 100 + day - 719468 := by
  obtain ⟨m, hm, hdef, hdate⟩ := exists_ofMarchDay_eq year h
  have hback : (if (m + 2) % 12 + 1 ≤ 2 then
      year + (if (m + 2) % 12 + 1 ≤ 2 then 1 else 0) - 1
      else year + (if (m + 2) % 12 + 1 ≤ 2 then 1 else 0)) = year := by
    split <;> omega
  have hshift : ((m + 2) % 12 + 1 + 9) % 12 = m := by omega
  have hdayOfYear : (153 * m + 2) / 5 + (day - (153 * m + 2) / 5 + 1) - 1 = day := by omega
  rw [hdate]
  unfold toDays
  simp only [hback, hshift, hdayOfYear]

/-- Every month has its days, the last of February only in a leap year. -/
theorem day_ofMarchDay_le (year : Int) {day : Nat} (h : day ≤ 365)
    (hleap : day = 365 → isLeapYear (year + 1) = true) :
    (ofMarchDay year day).day ≤
      monthLength (ofMarchDay year day).year (ofMarchDay year day).month := by
  obtain ⟨m, hm, hdef, hdate⟩ := exists_ofMarchDay_eq year h
  rw [hdate]
  show day - (153 * m + 2) / 5 + 1 ≤
    monthLength (year + if (m + 2) % 12 + 1 ≤ 2 then 1 else 0) ((m + 2) % 12 + 1)
  unfold monthLength
  by_cases hfebruary : m = 11
  · subst hfebruary
    have hmonth' : (11 + 2) % 12 + 1 = 2 := rfl
    have hnext : (if (11 + 2) % 12 + 1 ≤ 2 then 1 else 0 : Int) = 1 := rfl
    rw [if_pos hmonth', hnext]
    by_cases hlast : day = 365
    · rw [if_pos (hleap hlast)]
      omega
    · split
      · omega
      · omega
  · have hmonth' : ¬ (m + 2) % 12 + 1 = 2 := by omega
    rw [if_neg hmonth']
    split
    · omega
    · omega

/-! ## The date of a day -/

/-- A day is one of an era. -/
theorem exists_ofDays (days : Int) : ∃ (era : Int) (day : Nat), day < 146097 ∧
    days = era * 146097 + day - 719468 ∧
    ofDays days = ofMarchDay (yearOfEra day + era * 400) (day - daysBefore (yearOfEra day)) := by
  refine ⟨(days + 719468) / 146097, (days + 719468 - (days + 719468) / 146097 * 146097).toNat,
    by omega, by omega, ?_⟩
  have hdaysBefore : ∀ year, daysBefore year = 365 * year + year / 4 - year / 100 := by
    intro year
    unfold daysBefore
    omega
  rw [hdaysBefore]
  rfl

/-- The date of a day leads back to it. -/
theorem toDays_ofDays (days : Int) : (ofDays days).toDays = days := by
  obtain ⟨era, day, hday, hdays, hof⟩ := exists_ofDays days
  have hyear := yearOfEra_le hday
  have hbefore := daysBefore_yearOfEra_le hday
  have hera : ((yearOfEra day : Int) + era * 400) / 400 = era := by omega
  have hinEra : (yearOfEra day : Int) + era * 400 - era * 400 = yearOfEra day := by omega
  rw [hof, toDays_ofMarchDay _ (dayOfYear_le hday), hera, hinEra]
  unfold daysBefore at hbefore ⊢
  omega

/-- The date of a day is one of the calendar, if its year can be represented. -/
theorem isValid_ofDays {days : Int} (hleast : toDays ⟨-262143, 1, 1⟩ ≤ days)
    (hgreatest : days ≤ toDays ⟨262142, 12, 31⟩) : (ofDays days).isValid = true := by
  obtain ⟨era, day, hday, hdays, hof⟩ := exists_ofDays days
  have hyear := yearOfEra_le hday
  have hrest := dayOfYear_le hday
  have hbefore := daysBefore_yearOfEra_le hday
  obtain ⟨m, hm, hdef, hdate⟩ := exists_ofMarchDay_eq (yearOfEra day + era * 400) hrest
  have hmonth : (ofDays days).month = (m + 2) % 12 + 1 := by
    rw [hof, hdate]
  have hfirst : toDays ⟨-262143, 1, 1⟩ = -96465292 := by decide +kernel
  have hlast : toDays ⟨262142, 12, 31⟩ = 95026236 := by decide +kernel
  have hyears : -262143 ≤ (ofDays days).year ∧ (ofDays days).year ≤ 262142 := by
    have hshown : (ofDays days).year = yearOfEra day + era * 400 +
        if (m + 2) % 12 + 1 ≤ 2 then 1 else 0 := by
      rw [hof, hdate]
    rw [hfirst] at hleast
    rw [hlast] at hgreatest
    have hwinter : (m + 2) % 12 + 1 ≤ 2 ↔ 10 ≤ m := by omega
    rw [hshown]
    simp only [hwinter]
    unfold daysBefore at hdef hbefore hrest
    -- the first and the last year stand in the first and the last era
    have heras : era = -656 ∨ (-656 < era ∧ era < 655) ∨ era = 655 := by omega
    rcases heras with rfl | hbetween | rfl
    · have hfrom : yearOfEra day = 256 ∨ 256 < yearOfEra day := by omega
      split <;> omega
    · split <;> omega
    · have huntil : yearOfEra day = 142 ∨ yearOfEra day < 142 := by omega
      split <;> omega
  have hlength := day_ofMarchDay_le (yearOfEra day + era * 400) hrest fun hlast => by
    have hleap := leap_of_dayOfYear_eq hday hlast
    unfold isLeapYear
    simp only [Bool.or_eq_true, Bool.and_eq_true, beq_iff_eq, bne_iff_ne]
    omega
  rw [← hof] at hlength
  have hdayPos : 1 ≤ (ofDays days).day := by
    rw [hof]
    exact Nat.succ_pos _
  unfold isValid
  simp only [Bool.and_eq_true, decide_eq_true_eq]
  exact ⟨⟨⟨⟨⟨hyears.1, hyears.2⟩, by omega⟩, by omega⟩, hdayPos⟩, hlength⟩

end Mooring.Date
