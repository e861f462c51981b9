import PromptTree.Calendar.Date

/-!
Moments: a date, a time of day and, where it is known, the distance from universal time. Shifts by
days, seconds and months stay inside the calendar or fail.
-/

namespace PromptTree.Calendar

def dayMicroseconds : Nat := 86400000000

/-- A time of day, in microseconds since midnight. -/
structure TimeOfDay where
  microseconds : Nat
  lt_day : microseconds < dayMicroseconds
deriving DecidableEq

namespace TimeOfDay

def midnight : TimeOfDay := ⟨0, by decide⟩

def noon : TimeOfDay := ⟨43200000000, by decide⟩

/-- The time of an hour, minute, second and microsecond, if it exists. -/
def of? (hour minute second microsecond : Nat) : Option TimeOfDay :=
  if h : hour < 24 ∧ minute < 60 ∧ second < 60 ∧ microsecond < 1000000 then
    some ⟨((hour * 60 + minute) * 60 + second) * 1000000 + microsecond, by
      simp only [dayMicroseconds]; omega⟩
  else none

def hour (t : TimeOfDay) : Nat := t.microseconds / 3600000000

def minute (t : TimeOfDay) : Nat := t.microseconds / 60000000 % 60

def second (t : TimeOfDay) : Nat := t.microseconds / 1000000 % 60

def microsecond (t : TimeOfDay) : Nat := t.microseconds % 1000000

end TimeOfDay

/-- The distance of local from universal time, in microseconds; less than a day. -/
structure Offset where
  microseconds : Int
  lt_day : microseconds.natAbs < dayMicroseconds
deriving DecidableEq

/-- The offset of the given microseconds, if it is less than a day. -/
def Offset.of? (microseconds : Int) : Option Offset :=
  if h : microseconds.natAbs < dayMicroseconds then some ⟨microseconds, h⟩ else none

/-- A local date and time, with its offset from universal time where that is known. -/
structure Moment where
  date : Date
  time : TimeOfDay
  offset : Option Offset
deriving DecidableEq

namespace Moment

/-- Microseconds from the start of the year 1 to the moment, in local time. -/
def microseconds (m : Moment) : Int :=
  (m.date.ordinal - 1 : Int) * dayMicroseconds + m.time.microseconds

/-- The local time that many microseconds after the start of the year 1. -/
def ofMicroseconds? (micros : Int) (offset : Option Offset) : Option Moment :=
  let day : Int := dayMicroseconds
  (Date.ofOrdinal? (micros / day + 1)).map fun date =>
    { date
      time := ⟨(micros % day).toNat, by simp only [day, dayMicroseconds]; omega⟩
      offset }

/-- The moment that many microseconds later by the local clock. -/
def addMicroseconds? (m : Moment) (micros : Int) : Option Moment :=
  ofMicroseconds? (m.microseconds + micros) m.offset

def addSeconds? (m : Moment) (seconds : Int) : Option Moment :=
  m.addMicroseconds? (seconds * 1000000)

def midnight (m : Moment) : Moment :=
  { m with time := .midnight }

def noon (m : Moment) : Moment :=
  { m with time := .noon }

/-- Months since the start of the year 0. -/
def monthIndex (m : Moment) : Int :=
  12 * m.date.year + m.date.month - 1

/-- The moment that many months later: the same day of the month, or the last one there is, at the
same time. -/
def addMonths? (m : Moment) (months : Int) : Option Moment :=
  let index := m.monthIndex + months
  let year := index / 12
  let month := (index % 12).toNat + 1
  (Date.of? year.toNat month (min m.date.day (monthLength year month))).map fun date =>
    { m with date }

/-- The seconds from the start of the year 1 to the start of the year 1970. -/
def epochSeconds : Int := 62135596800

/-- Seconds since the start of 1970, by the local clock. -/
def unixSeconds (m : Moment) : Int :=
  m.microseconds / 1000000 - epochSeconds

/-- The moment a number of seconds after the start of 1970 in universal time, on the clock of the
given offset. Without an offset the clock shows universal time, and the first day of the calendar is
left out. -/
def ofUnixSeconds? (seconds : Int) : Option Offset → Option Moment
  | none =>
    if seconds < 86400 - epochSeconds then none
    else ofMicroseconds? ((seconds + epochSeconds) * 1000000) none
  | some offset =>
    let micros := (seconds + epochSeconds) * 1000000
    (ofMicroseconds? micros none).bind fun _ =>
      ofMicroseconds? (micros + offset.microseconds) (some offset)

end Moment

end PromptTree.Calendar
