import Vetting.Calendar

/-!
# The calendar

`CivilDate.ofDays` finds a date by dividing a count of days by the lengths of whole periods.  That
these divisions give the Gregorian calendar is said without them: the count 0 is 1 January 1970, and
the date of the next day is the next date (`CivilDate.ofDays_succ`), where `CivilDate.next` knows
nothing but the lengths of the months and the rule for leap years.  The count may be negative, so
this settles the dates before 1970 as well.

Counted from March, leap days end their years, and both divisions are cuts.  A year is cut into
months: every day of it is a day of the month that begins at its `CivilDate.firstOfMonth`
(`CivilDate.exists_eq_firstOfMonth_add`), and the date is found from the two
(`CivilDate.fromMarch_eq`).  A cycle of 400 years is cut into years at `CivilDate.firstDay` in the
same way (`CivilDate.exists_eq_firstDay_add`, `CivilDate.ofDays_eq`).  The next day is then the next
in its month, or the first of the next month, or the first of the next year.
-/

namespace Vetting

namespace CivilDate

/-! ## The lengths of months and years -/

/-- Every fourth year, but of the years that end a century only every fourth. -/
def isLeap (year : Int) : Bool := year % 4 = 0 && (year % 100 ≠ 0 || year % 400 = 0)

/-- The days of a month, in a leap year or not. -/
def monthLength (leap : Bool) (month : Nat) : Nat :=
  if month = 2 then if leap then 29 else 28
  else if month = 4 ∨ month = 6 ∨ month = 9 ∨ month = 11 then 30
  else 31

/-- A date that is in the calendar. -/
structure IsReal (d : CivilDate) : Prop where
  one_le_month : 1 ≤ d.month
  month_le : d.month ≤ 12
  one_le_day : 1 ≤ d.day
  day_le : d.day ≤ monthLength (isLeap d.year) d.month

/-- The date after a date. -/
def next (d : CivilDate) : CivilDate :=
  if d.day < monthLength (isLeap d.year) d.month then ⟨d.year, d.month, d.day + 1⟩
  else if d.month < 12 then ⟨d.year, d.month + 1, 1⟩
  else ⟨d.year + 1, 1, 1⟩

theorem monthLength_bounds (leap : Bool) (month : Nat) :
    28 ≤ monthLength leap month ∧ monthLength leap month ≤ 31 := by
  rw [monthLength]
  split
  · split <;> decide
  · split <;> decide

/-! ## Months of a year -/

/-- The month that lies so many months behind March. -/
def monthFromMarch (count : Nat) : Nat := if count < 10 then count + 3 else count - 9

/-- The days from 1 March to the first day of the month that lies so many months behind it. -/
def firstOfMonth (count : Nat) : Nat := (153 * count + 2) / 5

/-- The days from one first of March to the next; the leap day is the last of them. -/
def daysFromMarch (leap : Bool) : Nat := if leap then 366 else 365

/-- The date that lies so many days behind 1 March of a year. -/
def fromMarch (year : Int) (dayOfYear : Nat) : CivilDate :=
  let count := (5 * dayOfYear + 2) / 153
  ⟨year + (if monthFromMarch count ≤ 2 then 1 else 0), monthFromMarch count,
    dayOfYear - firstOfMonth count + 1⟩

/-- The month that is found by division is the one that the day is a day of. -/
theorem monthCount_eq_iff {count d : Nat} :
    (5 * d + 2) / 153 = count ↔ firstOfMonth count ≤ d ∧ d < firstOfMonth (count + 1) := by
  rw [firstOfMonth, firstOfMonth]
  omega

@[simp] theorem fromMarch_zero (year : Int) : fromMarch year 0 = ⟨year, 3, 1⟩ :=
  congrArg (fun y => CivilDate.mk y 3 1) (Int.add_zero year)

@[simp] theorem lt_daysFromMarch_iff {leap : Bool} {d : Nat} :
    d < daysFromMarch leap ↔ d < 365 ∨ d = 365 ∧ leap = true := by
  cases leap
  · simp [daysFromMarch]
  · simp only [daysFromMarch, if_true, and_true]
    omega

theorem daysFromMarch_pos (leap : Bool) : 0 < daysFromMarch leap :=
  lt_daysFromMarch_iff.2 (.inl (by decide))

theorem monthFromMarch_bounds {count : Nat} (hcount : count < 12) :
    1 ≤ monthFromMarch count ∧ monthFromMarch count ≤ 12 := by
  rw [monthFromMarch]
  split <;> omega

/-- January follows December, and no other month comes after a greater one. -/
theorem monthFromMarch_succ : ∀ count < 11, monthFromMarch (count + 1) =
    if monthFromMarch count < 12 then monthFromMarch count + 1 else 1 := by
  decide

/-- February is the last month. -/
theorem monthFromMarch_ne_two {count : Nat} (hcount : count < 11) : monthFromMarch count ≠ 2 := by
  rw [monthFromMarch]
  split <;> omega

/-- The months follow one another; February is the last, and its end is the end of the year. -/
theorem firstOfMonth_succ (leap : Bool) : ∀ count < 11,
    firstOfMonth (count + 1) = firstOfMonth count + monthLength leap (monthFromMarch count) := by
  cases leap <;> decide

theorem firstOfFebruary_add (leap : Bool) :
    firstOfMonth 11 + monthLength leap (monthFromMarch 11) = daysFromMarch leap := by
  cases leap <;> rfl

section Month

variable {leap : Bool} {count d : Nat}

/-- A month that is not the last ends before February. -/
theorem firstOfMonth_succ_le (hcount : count < 11) : firstOfMonth (count + 1) ≤ 337 := by
  rw [firstOfMonth]
  omega

/-- The days of the months are days of the year. -/
theorem firstOfMonth_add_lt (hcount : count < 12)
    (hd : d < monthLength leap (monthFromMarch count)) :
    firstOfMonth count + d < daysFromMarch leap := by
  rcases Nat.lt_or_eq_of_le (Nat.le_of_lt_succ hcount) with hlt | rfl
  · have hnext := firstOfMonth_succ leap count hlt
    have hend := firstOfMonth_succ_le hlt
    exact lt_daysFromMarch_iff.2 (.inl (by omega))
  · have hend := firstOfFebruary_add leap
    omega

/-- Every day of the year is a day of one of its months. -/
theorem exists_eq_firstOfMonth_add (hd : d < daysFromMarch leap) :
    ∃ count k : Nat, count < 12 ∧ k < monthLength leap (monthFromMarch count) ∧
      d = firstOfMonth count + k := by
  have hcount : (5 * d + 2) / 153 < 12 := by
    have hyear := lt_daysFromMarch_iff.1 hd
    omega
  generalize hmonth : (5 * d + 2) / 153 = count at hcount
  obtain ⟨hfirst, hnext⟩ := monthCount_eq_iff.1 hmonth
  refine ⟨count, d - firstOfMonth count, hcount, ?_, (Nat.add_sub_cancel' hfirst).symm⟩
  rcases Nat.lt_or_eq_of_le (Nat.le_of_lt_succ hcount) with hlt | rfl
  · have hlength := firstOfMonth_succ leap count hlt
    omega
  · have hend := firstOfFebruary_add leap
    omega

/-- The date of a day of a month. -/
theorem fromMarch_eq (year : Int) (hcount : count < 12)
    (hd : d < monthLength leap (monthFromMarch count)) :
    fromMarch year (firstOfMonth count + d) =
      ⟨year + (if monthFromMarch count ≤ 2 then 1 else 0), monthFromMarch count, d + 1⟩ := by
  have hnext : firstOfMonth count + d < firstOfMonth (count + 1) := by
    rcases Nat.lt_or_eq_of_le (Nat.le_of_lt_succ hcount) with hlt | rfl
    · have hlength := firstOfMonth_succ leap count hlt
      omega
    · have hlt := lt_daysFromMarch_iff.1 (firstOfMonth_add_lt hcount hd)
      have hend : firstOfMonth (11 + 1) = 367 := rfl
      omega
  have hmonth := monthCount_eq_iff.2 ⟨Nat.le_add_right (firstOfMonth count) d, hnext⟩
  simp only [fromMarch]
  rw [hmonth, Nat.add_sub_cancel_left]

end Month

/-- A year that is counted from March ends with the February of the next one. -/
theorem monthLength_isLeap (year : Int) (month : Nat) :
    monthLength (isLeap (year + (if month ≤ 2 then 1 else 0))) month =
      monthLength (isLeap (year + 1)) month := by
  by_cases hmonth : month = 2
  · rw [if_pos (Nat.le_of_eq hmonth)]
  · rw [monthLength, monthLength, if_neg hmonth, if_neg hmonth]

section FromMarch

variable {year : Int} {d : Nat}

theorem isReal_fromMarch (hd : d < daysFromMarch (isLeap (year + 1))) :
    (fromMarch year d).IsReal := by
  obtain ⟨count, k, hcount, hk, rfl⟩ := exists_eq_firstOfMonth_add hd
  obtain ⟨hmonth, hmonths⟩ := monthFromMarch_bounds hcount
  rw [fromMarch_eq year hcount hk]
  exact ⟨hmonth, hmonths, Nat.le_add_left 1 k, (monthLength_isLeap ..).symm ▸ hk⟩

/-- **The date of the next day of a year is the next date**, and the year ends with February. -/
theorem next_fromMarch (hd : d < daysFromMarch (isLeap (year + 1))) :
    (fromMarch year d).next =
      if d + 1 < daysFromMarch (isLeap (year + 1)) then fromMarch year (d + 1)
      else fromMarch (year + 1) 0 := by
  obtain ⟨count, k, hcount, hk, rfl⟩ := exists_eq_firstOfMonth_add hd
  rw [fromMarch_eq year hcount hk, next, monthLength_isLeap, Nat.add_assoc (firstOfMonth count)]
  rcases Nat.lt_or_eq_of_le (Nat.succ_le_of_lt hk) with hinside | hlast
  · -- inside of a month
    rw [if_pos hinside, if_pos (firstOfMonth_add_lt hcount hinside),
      fromMarch_eq year hcount hinside]
  rw [if_neg (Nat.not_lt.2 (Nat.le_of_eq hlast.symm)), show k + 1 = _ from hlast]
  rcases Nat.lt_or_eq_of_le (Nat.le_of_lt_succ hcount) with hlt | rfl
  · -- from a month to the next
    have hnextMonth : count + 1 < 12 := Nat.succ_lt_succ hlt
    have hpos : 0 < monthLength (isLeap (year + 1)) (monthFromMarch (count + 1)) :=
      Nat.lt_of_lt_of_le (by decide) (monthLength_bounds ..).1
    have hfirst := fromMarch_eq year hnextMonth hpos
    have hinYear := firstOfMonth_add_lt hnextMonth hpos
    rw [Nat.add_zero] at hfirst hinYear
    rw [← firstOfMonth_succ _ count hlt, if_pos hinYear, hfirst, monthFromMarch_succ count hlt]
    by_cases hyear : monthFromMarch count < 12
    · have hturn : monthFromMarch count + 1 ≤ 2 ↔ monthFromMarch count ≤ 2 := by
        have hother := monthFromMarch_ne_two hlt
        omega
      simp only [if_pos hyear, hturn]
    · have hbehind : ¬ monthFromMarch count ≤ 2 := by omega
      simp only [if_neg hyear, if_neg hbehind, Int.add_zero]
      rfl
  · -- from February to March, and out of the year
    rw [firstOfFebruary_add, if_neg (Nat.lt_irrefl _), fromMarch_zero]
    rfl

end FromMarch

/-! ## Years of a cycle -/

/-- The year of a cycle of 400 years, counted from March, that its day falls in. -/
def yearOfCycle (day : Nat) : Nat := (day - day / 1460 + day / 36524 - day / 146096) / 365

/-- The first day of a year of the cycle. -/
def firstDay (year : Nat) : Nat := 365 * year + year / 4 - year / 100 + year / 400

theorem isLeap_succ_iff (year : Nat) : isLeap (year + 1) = true ↔
    (year + 1) % 4 = 0 ∧ ((year + 1) % 100 ≠ 0 ∨ (year + 1) % 400 = 0) := by
  simp only [isLeap, decide_eq_true_eq, Bool.and_eq_true, Bool.or_eq_true]
  omega

theorem firstDay_succ (year : Nat) :
    firstDay (year + 1) = firstDay year + daysFromMarch (isLeap (year + 1)) := by
  have hleap := isLeap_succ_iff year
  have hcenturies : year / 100 ≤ year / 4 := Nat.div_le_div_left (by decide) (by decide)
  rw [firstDay, firstDay, daysFromMarch]
  by_cases hfour : (year + 1) % 4 = 0
  · by_cases hcentury : (year + 1) % 100 = 0
    · by_cases hcycle : (year + 1) % 400 = 0
      · rw [Nat.succ_div_of_mod_eq_zero hfour, Nat.succ_div_of_mod_eq_zero hcentury,
          Nat.succ_div_of_mod_eq_zero hcycle, if_pos (hleap.2 ⟨hfour, .inr hcycle⟩)]
        omega
      · rw [Nat.succ_div_of_mod_eq_zero hfour, Nat.succ_div_of_mod_eq_zero hcentury,
          Nat.succ_div_of_mod_ne_zero hcycle,
          if_neg fun h => (hleap.1 h).2.elim (absurd hcentury) hcycle]
        omega
    · have hcycle : (year + 1) % 400 ≠ 0 := by omega
      rw [Nat.succ_div_of_mod_eq_zero hfour, Nat.succ_div_of_mod_ne_zero hcentury,
        Nat.succ_div_of_mod_ne_zero hcycle, if_pos (hleap.2 ⟨hfour, .inl hcentury⟩)]
      omega
  · have hcentury : (year + 1) % 100 ≠ 0 := by omega
    have hcycle : (year + 1) % 400 ≠ 0 := by omega
    rw [Nat.succ_div_of_mod_ne_zero hfour, Nat.succ_div_of_mod_ne_zero hcentury,
      Nat.succ_div_of_mod_ne_zero hcycle, if_neg fun h => hfour (hleap.1 h).1]
    omega

/-- The days of the years of a cycle are days of the cycle. -/
theorem firstDay_add_lt {year d : Nat} (hyear : year < 400)
    (hd : d < daysFromMarch (isLeap (year + 1))) : firstDay year + d < 146097 := by
  have hnext := firstDay_succ year
  have hcycle : firstDay (year + 1) ≤ 146097 := by
    rw [firstDay]
    omega
  omega

/-- Leap years come back with the cycle. -/
theorem isLeap_cycle_add (cycle year : Int) :
    isLeap (400 * cycle + year + 1) = isLeap (year + 1) := by
  have h4 : (400 * cycle + year + 1) % 4 = (year + 1) % 4 := by omega
  have h100 : (400 * cycle + year + 1) % 100 = (year + 1) % 100 := by omega
  have h400 : (400 * cycle + year + 1) % 400 = (year + 1) % 400 := by omega
  rw [isLeap, isLeap, h4, h100, h400]

/-- A year as its century, the four years in it and the year in those. -/
theorem exists_century (year : Nat) (hyear : year < 400) : ∃ century four rest : Nat,
    century < 4 ∧ four < 25 ∧ rest < 4 ∧ year = 100 * century + 4 * four + rest :=
  ⟨year / 100, year % 100 / 4, year % 4, by omega, by omega, by omega, by omega⟩

/-- The days of a year of the cycle are those from its first day to the first day of the next. -/
theorem yearOfCycle_eq {year d : Nat} (hyear : year < 400)
    (hd : d < daysFromMarch (isLeap (year + 1))) :
    yearOfCycle (firstDay year + d) = year := by
  rw [lt_daysFromMarch_iff, isLeap_succ_iff] at hd
  obtain ⟨century, four, rest, hcentury, hfour, hrest, rfl⟩ := exists_century year hyear
  have hfirst : firstDay (100 * century + 4 * four + rest) =
      36524 * century + 1461 * four + 365 * rest := by
    rw [firstDay]
    omega
  have hlast : d < 365 ∨ d = 365 ∧ rest = 3 ∧ (four < 24 ∨ century = 3) := by
    exact hd.imp_right fun ⟨hday, hfourth, hends⟩ => ⟨hday, by omega, by omega⟩
  clear hd
  rw [hfirst, yearOfCycle]
  generalize hn : 36524 * century + 1461 * four + 365 * rest + d = n
  -- the leap day that ends the cycle is counted twice, with the centuries and with the cycles
  have hcenturies : n / 36524 = century + n / 146096 := by
    have hinside : n < 36524 * (century + 1) ∨ century = 3 ∧ n = 146096 := by omega
    rcases hinside with hlt | ⟨rfl, rfl⟩
    · have hcycle : n / 146096 = 0 := Nat.div_eq_of_lt (by omega)
      rw [hcycle]
      exact Nat.div_eq_of_lt_le (by omega) (by omega)
    · rfl
  -- a leap day is counted after 1460 days, at the latest when it comes
  have hleaps : 25 * century + four ≤ n / 1460 := by omega
  have hlater : n / 1460 ≤ 25 * century + four + d := by omega
  have hleap : 25 * century + four + d < n / 1460 + 365 := by omega
  rw [hcenturies]
  clear hcenturies hlast
  exact Nat.div_eq_of_lt_le (by omega) (by omega)

/-- Every day of the cycle is a day of one of its years. -/
theorem exists_eq_firstDay_add (day : Nat) (hday : day < 146097) :
    ∃ year d : Nat, year < 400 ∧ d < daysFromMarch (isLeap (year + 1)) ∧
      day = firstDay year + d := by
  have hbelow : ∀ bound ≤ 400, day < firstDay bound → ∃ year d : Nat, year < 400 ∧
      d < daysFromMarch (isLeap (year + 1)) ∧ day = firstDay year + d := by
    intro bound hbound hlt
    induction bound with
    | zero => cases hlt
    | succ year ih =>
      by_cases hfirst : day < firstDay year
      · exact ih (Nat.le_of_succ_le hbound) hfirst
      · have hnext := firstDay_succ year
        exact ⟨year, day - firstDay year, hbound, by omega, by omega⟩
  exact hbelow 400 (Nat.le_refl 400) hday

/-- The date of a day of a year of a cycle. -/
theorem ofDays_eq {year d : Nat} (cycle : Int) (hyear : year < 400)
    (hd : d < daysFromMarch (isLeap (year + 1))) :
    ofDays (146097 * cycle + (firstDay year + d : Nat) - epochDays) =
      fromMarch (400 * cycle + year) d := by
  have hlt := firstDay_add_lt hyear hd
  generalize hn : firstDay year + d = n at hlt
  have hcycle : (146097 * cycle + (n : Int) - epochDays + epochDays) / 146097 = cycle := by omega
  have hday : ((146097 * cycle + (n : Int) - epochDays + epochDays) % 146097).toNat = n := by omega
  have hfirst : n - (365 * year + year / 4 - year / 100) = d := by
    rw [firstDay] at hn
    omega
  have hyearOf := yearOfCycle_eq hyear hd
  rw [hn, yearOfCycle] at hyearOf
  simp only [ofDays]
  rw [hcycle, hday, hyearOf, hfirst, Int.mul_comm cycle]
  rfl

/-- A count of days, cut into cycles, years and days. -/
theorem exists_count_eq (days : Int) : ∃ (cycle : Int) (year d : Nat), year < 400 ∧
    d < daysFromMarch (isLeap (year + 1)) ∧
      days = 146097 * cycle + (firstDay year + d : Nat) - epochDays := by
  obtain ⟨year, d, hyear, hd, hday⟩ := exists_eq_firstDay_add
    ((days + epochDays) % 146097).toNat (by omega)
  refine ⟨(days + epochDays) / 146097, year, d, hyear, hd, ?_⟩
  rw [← hday]
  omega

/-- The first day of a year, and of the cycle after the last. -/
theorem ofDays_firstDay (cycle : Int) (year : Nat) (hyear : year ≤ 400) :
    ofDays (146097 * cycle + (firstDay year : Nat) - epochDays) =
      fromMarch (400 * cycle + year) 0 := by
  have hfirst : ∀ (cycle : Int) (year : Nat), year < 400 →
      ofDays (146097 * cycle + (firstDay year : Nat) - epochDays) =
        fromMarch (400 * cycle + year) 0 := by
    intro cycle year hlt
    rw [← ofDays_eq cycle hlt (daysFromMarch_pos _), Nat.add_zero]
  rcases Nat.lt_or_eq_of_le hyear with hlt | rfl
  · exact hfirst cycle year hlt
  · have hday : 146097 * cycle + ((firstDay 400 : Nat) : Int) - epochDays =
        146097 * (cycle + 1) + (firstDay 0 : Nat) - epochDays := by
      have hstart : firstDay 0 = 0 := rfl
      have hend : firstDay 400 = 146097 := rfl
      omega
    have hyears : 400 * cycle + ((400 : Nat) : Int) = 400 * (cycle + 1) + (0 : Nat) := by omega
    rw [hday, hfirst (cycle + 1) 0 (by decide), hyears]

theorem isReal_ofDays (days : Int) : (ofDays days).IsReal := by
  obtain ⟨cycle, year, d, hyear, hd, rfl⟩ := exists_count_eq days
  rw [ofDays_eq cycle hyear hd]
  exact isReal_fromMarch ((isLeap_cycle_add cycle year).symm ▸ hd)

/-- **The date of the next day is the next date.** -/
theorem ofDays_succ (days : Int) : ofDays (days + 1) = (ofDays days).next := by
  obtain ⟨cycle, year, d, hyear, hd, rfl⟩ := exists_count_eq days
  have hleap := isLeap_cycle_add cycle year
  rw [ofDays_eq cycle hyear hd, next_fromMarch (hleap.symm ▸ hd), hleap]
  split
  · -- the next day is in the same year
    rename_i hlt
    rw [← ofDays_eq cycle hyear hlt]
    congr 1
    omega
  · -- the next day is the first of the next year
    have hnext := firstDay_succ year
    have hyears : 400 * cycle + year + 1 = 400 * cycle + (year + 1 : Nat) := by omega
    rw [hyears, ← ofDays_firstDay cycle (year + 1) hyear]
    congr 1
    omega

end CivilDate

end Vetting
