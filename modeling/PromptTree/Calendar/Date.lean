import PromptTree.Text.Digit

/-!
Dates of the Gregorian calendar, extended to the years 1 to 9999. A date carries the proof that it
exists.
-/

namespace PromptTree.Calendar

/-- A year that is divisible by four, centuries only by four hundred. -/
def isLeap (year : Int) : Bool :=
  year % 4 == 0 && (year % 100 != 0 || year % 400 == 0)

def monthLength (year : Int) (month : Nat) : Nat :=
  match month with
  | 2 => if isLeap year then 29 else 28
  | 4 | 6 | 9 | 11 => 30
  | _ => 31

/-- The number of days before the first of January of a year. -/
def daysBeforeYear (year : Nat) : Nat :=
  let y := year - 1
  y * 365 + y / 4 - y / 100 + y / 400

/-- The number of days of a year before the first of a month. -/
def daysBeforeMonth (year month : Nat) : Nat :=
  (List.range (month - 1)).foldl (fun days m => days + monthLength year (m + 1)) 0

/-- An existing day of the years 1 to 9999. -/
structure Date where
  year : Nat
  month : Nat
  day : Nat
  year_mem : 1 ≤ year ∧ year ≤ 9999
  month_mem : 1 ≤ month ∧ month ≤ 12
  day_mem : 1 ≤ day ∧ day ≤ monthLength year month
deriving DecidableEq

namespace Date

def of? (year month day : Nat) : Option Date :=
  if hy : 1 ≤ year ∧ year ≤ 9999 then
    if hm : 1 ≤ month ∧ month ≤ 12 then
      if hd : 1 ≤ day ∧ day ≤ monthLength year month then some ⟨year, month, day, hy, hm, hd⟩
      else none
    else none
  else none

theorem of?_eq_some_iff {y m d : Nat} {date : Date} :
    of? y m d = some date ↔ date.year = y ∧ date.month = m ∧ date.day = d := by
  obtain ⟨year, month, day, hy, hm, hd⟩ := date
  constructor
  · intro h
    unfold of? at h
    split at h <;> try contradiction
    split at h <;> try contradiction
    split at h <;> try contradiction
    simp_all
  · rintro ⟨rfl, rfl, rfl⟩
    simp [of?, hy, hm, hd]

/-- The days from the first of January of the year 1 to this day, both counted. -/
def ordinal (d : Date) : Nat :=
  daysBeforeYear d.year + daysBeforeMonth d.year d.month + d.day

/-- The month, from `month` on, and the day of it that a day of the year counted from `month` falls
on; at most `bound` months are passed. -/
def monthOf (year month dayOfYear : Nat) : (bound : Nat) → Nat × Nat
  | 0 => (month, dayOfYear)
  | bound + 1 =>
    if dayOfYear ≤ monthLength year month then (month, dayOfYear)
    else monthOf year (month + 1) (dayOfYear - monthLength year month) bound

def yearOf (ordinal : Nat) : Nat :=
  let n := ordinal - 1
  let n400 := n / 146097
  let n := n % 146097
  let n100 := n / 36524
  let n := n % 36524
  let n4 := n / 1461
  let n := n % 1461
  let n1 := n / 365
  let year := n400 * 400 + n100 * 100 + n4 * 4 + n1 + 1
  if n1 == 4 || n100 == 4 then year - 1 else year

/-- The day with the given ordinal, if it lies in the years 1 to 9999. -/
def ofOrdinal? (ordinal : Int) : Option Date :=
  if ordinal < 1 then none
  else
    let n := ordinal.toNat
    let year := yearOf n
    let (month, day) := monthOf year 1 (n - daysBeforeYear year) 11
    of? year month day

/-- The day of the week; Monday is 0. -/
def weekday (d : Date) : Nat :=
  (d.ordinal + 6) % 7

/-- The day of the year; the first of January is 1. -/
def dayOfYear (d : Date) : Nat :=
  daysBeforeMonth d.year d.month + d.day

/-- The ordinal of the Monday of the first week of a year: the week with the year's first Thursday. -/
def firstMonday (year : Nat) : Int :=
  let first : Int := daysBeforeYear year + 1
  let weekday := (first + 6) % 7
  if weekday > 3 then first - weekday + 7 else first - weekday

/-- The year that the day's week belongs to, and the number of that week. -/
def isoWeek (d : Date) : Nat × Nat :=
  let n : Int := d.ordinal
  let week (monday : Int) : Nat := ((n - monday) / 7 + 1).toNat
  if n < firstMonday d.year then (d.year - 1, week (firstMonday (d.year - 1)))
  else if n ≥ firstMonday (d.year + 1) then (d.year + 1, 1)
  else (d.year, week (firstMonday d.year))

/-- A year has 53 weeks if it begins on a Thursday, or on a Wednesday and is leap. -/
def hasWeek53 (year : Nat) : Bool :=
  let weekday := (daysBeforeYear year + 7) % 7
  weekday == 3 || (weekday == 2 && isLeap year)

/-- The day of a week, 1 for Monday to 7, if the year has that week. -/
def ofIsoWeek? (year week day : Nat) : Option Date :=
  if year < 1 || year > 9999 then none
  else if week < 1 || week > 53 || (week == 53 && !hasWeek53 year) then none
  else if day < 1 || day > 7 then none
  else ofOrdinal? (firstMonday year + (week - 1) * 7 + day - 1)

def text (d : Date) : String :=
  s!"{Text.paddedNat 4 d.year}-{Text.paddedNat 2 d.month}-{Text.paddedNat 2 d.day}"

end Date

end PromptTree.Calendar
