/-!
# Times in the log

Records carry the time at which they were written, as a date and a time of day in universal time.
The civil date is computed from the number of days since the beginning of 1970 with the years
starting in March, so that the leap day is the last day of a year. The main statement,
`dayNumber_dateOfDay`, is that counting the days up to a date gives the day back.
-/

namespace FailurePrompt.Clock

/-- A calendar date. -/
structure Date where
  year : Nat
  month : Nat
  day : Nat
  deriving Repr, DecidableEq

/-- The days of four centuries. -/
def eraDays : Nat := 146097

/-- The day on which the count of days begins, counted from March of the year zero. -/
def epochDay : Nat := 719468

/-- The date of a day, counted from the beginning of 1970. -/
def dateOfDay (day : Nat) : Date :=
  let n := day + epochDay
  let era := n / eraDays
  let dayOfEra := n % eraDays
  let yearOfEra := (dayOfEra - dayOfEra / 1460 + dayOfEra / 36524 - dayOfEra / 146096) / 365
  let dayOfYear := dayOfEra - (365 * yearOfEra + yearOfEra / 4 - yearOfEra / 100)
  let monthFromMarch := (5 * dayOfYear + 2) / 153
  let month := if monthFromMarch < 10 then monthFromMarch + 3 else monthFromMarch - 9
  { year := yearOfEra + era * 400 + (if month ≤ 2 then 1 else 0)
    month
    day := dayOfYear - (153 * monthFromMarch + 2) / 5 + 1 }

/-! ### Counting days -/

/-- The lengths of the months from March on; the last one is that of February in a leap year. -/
def monthLengths : List Nat := [31, 30, 31, 30, 31, 31, 30, 31, 30, 31, 31, 29]

/-- The days of the first months of a year that starts in March. -/
def daysOfMonths (months : Nat) : Nat := (monthLengths.take months).foldl (· + ·) 0

namespace Date

/-- The number of a month in a year that starts in March, from zero on. -/
def monthFromMarch (d : Date) : Nat := if d.month ≤ 2 then d.month + 9 else d.month - 3

/-- The year that started in the March before a date. -/
def yearFromMarch (d : Date) : Nat := if d.month ≤ 2 then d.year - 1 else d.year

/-- The number of a date, counted from March of the year zero: every fourth year is a leap year,
but of the full centuries only every fourth. -/
def dayNumber (d : Date) : Nat :=
  let year := d.yearFromMarch
  365 * year + year / 4 - year / 100 + year / 400 + daysOfMonths d.monthFromMarch + (d.day - 1)

/-- The date has a month of the year and a day of that month. -/
structure IsCivil (d : Date) : Prop where
  month : 1 ≤ d.month ∧ d.month ≤ 12
  day : 1 ≤ d.day ∧ d.day ≤ monthLengths.getD d.monthFromMarch 0

end Date

/-- A day of four centuries, by centuries, spans of four years, years and days. A century that ends
with a leap day, and a span of four years that does, have that day in their last year. -/
theorem exists_parts {n : Nat} (h : n < eraDays) :
    ∃ c q u v, n = 36524 * c + 1461 * q + 365 * u + v ∧ c < 4 ∧ q < 25 ∧ u < 4 ∧ v < 366 ∧
      (v = 365 → u = 3 ∧ (q = 24 → c = 3)) := by
  rw [eraDays] at h
  let c := min (n / 36524) 3
  let ofCentury := n - 36524 * c
  let ofSpan := ofCentury % 1461
  let u := min (ofSpan / 365) 3
  refine ⟨c, ofCentury / 1461, u, ofSpan - 365 * u, ?_, ?_, ?_, ?_, ?_, ?_⟩ <;>
    simp only [c, ofCentury, ofSpan, u] <;> omega

/-- Leap days taken out, a day of four centuries tells its year. -/
theorem yearOfEra_eq {c q u v : Nat} (hc : c < 4) (hq : q < 25) (hu : u < 4) (hv : v < 366)
    (hleap : v = 365 → u = 3 ∧ (q = 24 → c = 3)) :
    let n := 36524 * c + 1461 * q + 365 * u + v
    (n - n / 1460 + n / 36524 - n / 146096) / 365 = 100 * c + 4 * q + u := by
  intro n
  have hspans : n / 1460 = 25 * c + q + (24 * c + q + 365 * u + v) / 1460 := by omega
  have hcenturies : n / 36524 = c + (1461 * q + 365 * u + v) / 36524 := by omega
  have hera : n / 146096 = (1461 * q + 365 * u + v) / 36524 := by omega
  have hone : (24 * c + q + 365 * u + v) / 1460 ≤ 1 := by omega
  rw [hspans, hcenturies, hera]
  omega

/-- A day of a year that starts in March tells its month and its day. -/
theorem month_of_dayOfYear : ∀ v < 366,
    (5 * v + 2) / 153 < 12 ∧ (153 * ((5 * v + 2) / 153) + 2) / 5 ≤ v ∧
      daysOfMonths ((5 * v + 2) / 153) = (153 * ((5 * v + 2) / 153) + 2) / 5 ∧
      v - (153 * ((5 * v + 2) / 153) + 2) / 5 < monthLengths.getD ((5 * v + 2) / 153) 0 := by
  decide +kernel

/-- A date in the year that starts in the March of a given year. -/
def dateFromMarch (year month day : Nat) : Date :=
  let civil := if month < 10 then month + 3 else month - 9
  ⟨year + if civil ≤ 2 then 1 else 0, civil, day⟩

theorem monthFromMarch_dateFromMarch {year month day : Nat} (h : month < 12) :
    (dateFromMarch year month day).monthFromMarch = month := by
  simp only [dateFromMarch, Date.monthFromMarch]
  split <;> split <;> omega

theorem yearFromMarch_dateFromMarch {year month day : Nat} (h : month < 12) :
    (dateFromMarch year month day).yearFromMarch = year := by
  simp only [dateFromMarch, Date.yearFromMarch]
  split <;> split <;> omega

/-- The date of a day is that of its parts. -/
theorem exists_dateOfDay (day : Nat) : ∃ era c q u v, c < 4 ∧ q < 25 ∧ u < 4 ∧ v < 366 ∧
    day + epochDay = 146097 * era + 36524 * c + 1461 * q + 365 * u + v ∧
      dateOfDay day = dateFromMarch (400 * era + 100 * c + 4 * q + u) ((5 * v + 2) / 153)
        (v - (153 * ((5 * v + 2) / 153) + 2) / 5 + 1) := by
  obtain ⟨c, q, u, v, hday, hc, hq, hu, hv, hleap⟩ :=
    exists_parts (Nat.mod_lt (day + epochDay) (show 0 < eraDays by decide))
  have hyear := yearOfEra_eq hc hq hu hv hleap
  have hdays : 36524 * c + 1461 * q + 365 * u + v -
      (365 * (100 * c + 4 * q + u) + (100 * c + 4 * q + u) / 4 - (100 * c + 4 * q + u) / 100) = v := by
    omega
  have hdiv := Nat.div_add_mod (day + epochDay) eraDays
  refine ⟨(day + epochDay) / eraDays, c, q, u, v, hc, hq, hu, hv, ?_, ?_⟩
  · rw [← hdiv, hday, eraDays]
    omega
  · dsimp only at hyear
    simp only [dateOfDay, dateFromMarch, hday, hyear, hdays, Date.mk.injEq, and_true]
    omega

theorem isCivil_dateOfDay (day : Nat) : (dateOfDay day).IsCivil := by
  obtain ⟨era, c, q, u, v, -, -, -, hv, -, hdate⟩ := exists_dateOfDay day
  obtain ⟨hmonth, -, -, hlast⟩ := month_of_dayOfYear v hv
  rw [hdate]
  refine ⟨?_, Nat.le_add_left _ _, ?_⟩
  · simp only [dateFromMarch]
    split <;> omega
  · rw [monthFromMarch_dateFromMarch hmonth]
    exact hlast

/-- Counting the days up to the date of a day gives the day back. -/
theorem dayNumber_dateOfDay (day : Nat) : (dateOfDay day).dayNumber = day + epochDay := by
  obtain ⟨era, c, q, u, v, hc, hq, hu, hv, hday, hdate⟩ := exists_dateOfDay day
  obtain ⟨hmonth, hfirst, hmonths, -⟩ := month_of_dayOfYear v hv
  rw [hdate, Date.dayNumber, yearFromMarch_dateFromMarch hmonth,
    monthFromMarch_dateFromMarch hmonth, hmonths, hday]
  simp only [dateFromMarch, Nat.add_sub_cancel]
  omega

example : dateOfDay 0 = ⟨1970, 1, 1⟩ := by decide

example : dateOfDay 19782 = ⟨2024, 2, 29⟩ := by decide

/-! ### Writing times -/

/-- A number with leading zeros up to a width. -/
def zeroPadded (width n : Nat) : String :=
  let digits := toString n
  String.ofList (List.replicate (width - digits.length) '0') ++ digits

/-- The text of a time, given in microseconds since the beginning of 1970. -/
def text (micros : Nat) : String :=
  let seconds := micros / 1000000
  let date := dateOfDay (seconds / 86400)
  let ofDay := seconds % 86400
  let day := s!"{zeroPadded 4 date.year}-{zeroPadded 2 date.month}-{zeroPadded 2 date.day}"
  let time := s!"{zeroPadded 2 (ofDay / 3600)}:{zeroPadded 2 (ofDay / 60 % 60)}"
  s!"{day}T{time}:{zeroPadded 2 (ofDay % 60)}.{zeroPadded 6 (micros % 1000000)}Z"

end FailurePrompt.Clock
