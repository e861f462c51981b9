import PromptTree.Calendar.Expression
import PromptTree.Proofs.Calendar.Ordinal
import PromptTree.Proofs.Stretch

/-!
Moments that are moved by offsets. A moment is given by its microseconds since the start of the year 1,
and its month by the months since the start of the year 0, so that a shift adds to one of the two
numbers; `Moves` says what one offset does and `Follows` what a sequence does. Main statements: a shift
leads to the moment that these numbers give, and fails just when there is none
(`Shift.apply_eq_ok_iff`, `Shift.apply_eq_error_iff`), and offsets are applied from left to right
(`applyAll_eq_ok_iff`, `applyAll_eq_error_iff`).
-/

namespace PromptTree.Calendar

/-! ### Moments by their numbers -/

namespace TimeOfDay

theorem ext {t u : TimeOfDay} (same : t.microseconds = u.microseconds) : t = u := by
  cases t
  cases u
  cases same
  rfl

end TimeOfDay

namespace Moment

theorem ext {m n : Moment} (date : m.date = n.date) (time : m.time = n.time)
    (offset : m.offset = n.offset) : m = n := by
  cases m
  cases n
  cases date
  cases time
  cases offset
  rfl

/-- The microseconds from the start of the year 1 to the end of the calendar. -/
def endMicroseconds : Int := Date.lastOrdinal * dayMicroseconds

theorem microseconds_mem (m : Moment) : 0 ≤ m.microseconds ∧ m.microseconds < endMicroseconds := by
  have day := m.date.ordinal_le_last
  have time := m.time.lt_day
  unfold microseconds endMicroseconds
  simp only [dayMicroseconds, Date.lastOrdinal] at *
  omega

theorem ofMicroseconds?_eq_some_iff {micros : Int} {offset : Option Offset} {m : Moment} :
    ofMicroseconds? micros offset = some m ↔ m.microseconds = micros ∧ m.offset = offset := by
  have time := m.time.lt_day
  unfold ofMicroseconds? microseconds
  rw [Option.map_eq_some_iff]
  simp only [Date.ofOrdinal?_eq_some_iff]
  constructor
  · rintro ⟨date, isDay, rfl⟩
    refine ⟨?_, rfl⟩
    dsimp only
    simp only [dayMicroseconds] at *
    omega
  · rintro ⟨isMoment, rfl⟩
    refine ⟨m.date, ?_, ext rfl (TimeOfDay.ext ?_) rfl⟩
    · simp only [dayMicroseconds] at *
      omega
    · dsimp only
      simp only [dayMicroseconds] at *
      omega

theorem exists_microseconds_eq_iff (micros : Int) (offset : Option Offset) :
    (∃ m : Moment, m.microseconds = micros ∧ m.offset = offset) ↔
      0 ≤ micros ∧ micros < endMicroseconds := by
  constructor
  · rintro ⟨m, rfl, _⟩
    exact m.microseconds_mem
  · rintro ⟨nonneg, lt⟩
    have isNumber : 1 ≤ micros / dayMicroseconds + 1 ∧ micros / dayMicroseconds + 1 ≤ Date.lastOrdinal := by
      simp only [endMicroseconds, dayMicroseconds, Date.lastOrdinal] at *
      omega
    obtain ⟨date, isDay⟩ := Date.exists_ordinal_eq_iff.mpr isNumber
    have found : ofMicroseconds? micros offset = some _ :=
      Option.map_eq_some_iff.mpr ⟨date, Date.ofOrdinal?_eq_some_iff.mpr isDay, rfl⟩
    exact ⟨_, ofMicroseconds?_eq_some_iff.mp found⟩

theorem addSeconds?_eq_some_iff {m n : Moment} {seconds : Int} :
    m.addSeconds? seconds = some n ↔
      n.microseconds = m.microseconds + seconds * 1000000 ∧ n.offset = m.offset :=
  ofMicroseconds?_eq_some_iff

/-- The index of the month after the last one of the calendar. -/
def endMonth : Int := 120000

/-- The moment lies that many months later: on the same day of the month, or the last one there is, at the
same time. -/
structure MonthsLater (months : Int) (m n : Moment) : Prop where
  index : n.monthIndex = m.monthIndex + months
  day : n.date.day = min m.date.day (monthLength n.date.year n.date.month)
  time : n.time = m.time
  offset : n.offset = m.offset

theorem addMonths?_eq_some_iff {m n : Moment} {months : Int} :
    m.addMonths? months = some n ↔ MonthsLater months m n := by
  unfold addMonths?
  dsimp only
  rw [Option.map_eq_some_iff]
  simp only [Date.of?_eq_some_iff]
  constructor
  · rintro ⟨date, ⟨isYear, isMonth, isDay⟩, rfl⟩
    have yearMem := date.year_mem
    have index : (12 * date.year + date.month - 1 : Int) = m.monthIndex + months := by
      omega
    have sameYear : ((date.year : Nat) : Int) = (m.monthIndex + months) / 12 := by
      omega
    refine ⟨index, ?_, rfl, rfl⟩
    rw [isDay, isMonth, ← sameYear]
  · rintro ⟨index, day, time, offset⟩
    have yearMem := n.date.year_mem
    have monthMem := n.date.month_mem
    unfold monthIndex at index
    have isMonth : n.date.month = ((m.monthIndex + months) % 12).toNat + 1 := by
      unfold monthIndex
      omega
    have isYear : ((n.date.year : Nat) : Int) = (m.monthIndex + months) / 12 := by
      unfold monthIndex
      omega
    refine ⟨n.date, ⟨by omega, isMonth, ?_⟩, ext rfl time.symm offset.symm⟩
    rw [day, isMonth, isYear]

theorem exists_monthsLater_iff (m : Moment) (months : Int) :
    (∃ n, MonthsLater months m n) ↔
      12 ≤ m.monthIndex + months ∧ m.monthIndex + months < endMonth := by
  unfold endMonth
  constructor
  · rintro ⟨n, later⟩
    rw [← later.index]
    have yearMem := n.date.year_mem
    have monthMem := n.date.month_mem
    unfold monthIndex
    omega
  · rintro ⟨notBefore, before⟩
    obtain ⟨index, isIndex⟩ := Int.eq_ofNat_of_zero_le (Int.le_trans (by decide) notBefore)
    have length := monthLength_pos ((index / 12 : Nat) : Int) (index % 12 + 1)
    have day := m.date.day_mem
    refine ⟨⟨⟨index / 12, index % 12 + 1,
      min m.date.day (monthLength ((index / 12 : Nat) : Int) (index % 12 + 1)),
      by omega, by omega, by omega⟩, m.time, m.offset⟩, ?_, rfl, rfl, rfl⟩
    rw [isIndex]
    unfold monthIndex
    dsimp only
    omega

/-- There is no moment that many months later if the year is none of the calendar's. -/
theorem addMonths?_eq_none_iff {m : Moment} {months : Int} :
    m.addMonths? months = none ↔
      (m.monthIndex + months) / 12 < 1 ∨ 9999 < (m.monthIndex + months) / 12 := by
  have some_iff := exists_monthsLater_iff m months
  simp only [← addMonths?_eq_some_iff] at some_iff
  rw [Option.eq_none_iff_forall_ne_some, ← not_exists, some_iff]
  unfold endMonth
  omega

/-- There is no moment that many seconds later if these lead out of the calendar. -/
theorem addSeconds?_eq_none_iff {m : Moment} {seconds : Int} :
    m.addSeconds? seconds = none ↔ m.microseconds + seconds * 1000000 < 0 ∨
      endMicroseconds ≤ m.microseconds + seconds * 1000000 := by
  have some_iff := exists_microseconds_eq_iff (m.microseconds + seconds * 1000000) m.offset
  simp only [← addSeconds?_eq_some_iff] at some_iff
  rw [Option.eq_none_iff_forall_ne_some, ← not_exists, some_iff]
  omega

end Moment

namespace Expression

/-! ### One offset -/

/-- The months of a unit, unless its length in seconds is fixed. -/
def Unit.months? : Unit → Option Nat
  | .month => some 1
  | .year => some 12
  | .second | .minute | .hour | .day | .week | .fortnight => none

namespace Shift

/-- The units by which an offset moves a moment; the word `ago` turns the direction. -/
def amount (shift : Shift) (ago : Bool) : Int :=
  if shift.backward != ago then -(Text.numberOfDigits 10 shift.digits : Int)
  else Text.numberOfDigits 10 shift.digits

/-- The digits of an offset are not more than a number may have. -/
def Readable (shift : Shift) : Prop :=
  shift.digits.length ≤ Text.maxNumberDigits

/-- What an offset does to a moment. -/
inductive Moves (shift : Shift) (ago : Bool) (m n : Moment) : Prop where
  | months {length : Nat} :
    shift.unit.months? = some length → Moment.MonthsLater (shift.amount ago * length) m n →
    Moves shift ago m n
  | seconds {length : Nat} :
    shift.unit.seconds? = some length →
    n.microseconds = m.microseconds + shift.amount ago * length * 1000000 → n.offset = m.offset →
    Moves shift ago m n

/-- Why an offset does not lead to a moment: its amount has too many digits, or what it leads to lies
outside of the calendar. A year outside is named, unless it is too large to be asked for. -/
inductive Stuck (shift : Shift) (ago : Bool) (m : Moment) : MomentError → Prop where
  | unreadable : ¬ shift.Readable → Stuck shift ago m (.amountTooLong shift.digits.length)
  | noYear {length : Nat} {year : Int} :
    shift.Readable → shift.unit.months? = some length →
    year = (m.monthIndex + shift.amount ago * length) / 12 → year < 1 ∨ 9999 < year →
    -maxYear - 1 ≤ year ∧ year ≤ maxYear → Stuck shift ago m (.yearOutOfRange year)
  | tooFarByMonths {length : Nat} {year : Int} :
    shift.Readable → shift.unit.months? = some length →
    year = (m.monthIndex + shift.amount ago * length) / 12 →
    ¬ (-maxYear - 1 ≤ year ∧ year ≤ maxYear) → Stuck shift ago m .shiftTooLarge
  | tooFarBySeconds {length : Nat} {micros : Int} :
    shift.Readable → shift.unit.seconds? = some length →
    micros = m.microseconds + shift.amount ago * length * 1000000 →
    micros < 0 ∨ Moment.endMicroseconds ≤ micros → Stuck shift ago m .shiftTooLarge

theorem apply_of_not_readable {shift : Shift} (long : ¬ shift.Readable) (ago : Bool) (m : Moment) :
    shift.apply ago m = .error (.amountTooLong shift.digits.length) := by
  unfold apply
  rw [if_pos (Nat.lt_of_not_le long)]

theorem apply_of_months {shift : Shift} {length : Nat} (readable : shift.Readable)
    (isLength : shift.unit.months? = some length) (ago : Bool) (m : Moment) :
    shift.apply ago m = addMonths m (shift.amount ago * length) := by
  unfold apply
  rw [if_neg (Nat.not_lt.mpr readable)]
  cases isUnit : shift.unit <;> rw [isUnit] at isLength <;> cases isLength
  · exact congrArg (addMonths m) (Int.mul_one _).symm
  · rfl

theorem apply_of_seconds {shift : Shift} {length : Nat} (readable : shift.Readable)
    (isLength : shift.unit.seconds? = some length) (ago : Bool) (m : Moment) :
    shift.apply ago m = addSeconds m (shift.amount ago * length) := by
  unfold apply
  rw [if_neg (Nat.not_lt.mpr readable)]
  cases isUnit : shift.unit <;> rw [isUnit] at isLength <;> cases isLength <;> rfl

theorem months_or_seconds (unit : Unit) :
    (∃ length, unit.months? = some length ∧ unit.seconds? = none) ∨
      ∃ length, unit.seconds? = some length ∧ unit.months? = none := by
  cases unit <;> simp [Unit.months?, Unit.seconds?]

theorem addMonths_eq_ok_iff {m n : Moment} {months : Int} :
    addMonths m months = .ok n ↔ Moment.MonthsLater months m n := by
  rw [← Moment.addMonths?_eq_some_iff]
  unfold addMonths
  cases m.addMonths? months with
  | some moved => simp
  | none =>
    dsimp only
    split <;> simp

theorem addMonths_eq_error_iff {m : Moment} {months : Int} {e : MomentError} :
    addMonths m months = .error e ↔ ∃ year, year = (m.monthIndex + months) / 12 ∧
      (year < 1 ∨ 9999 < year) ∧
      e = if -maxYear - 1 ≤ year ∧ year ≤ maxYear then .yearOutOfRange year else .shiftTooLarge := by
  simp only [exists_eq_left, ← Moment.addMonths?_eq_none_iff]
  unfold addMonths
  cases m.addMonths? months with
  | some moved => simp
  | none =>
    dsimp only
    simp only [Bool.and_eq_true, decide_eq_true_eq, true_and]
    split <;> simp [eq_comm]

theorem addSeconds_eq_ok_iff {m n : Moment} {seconds : Int} :
    addSeconds m seconds = .ok n ↔
      n.microseconds = m.microseconds + seconds * 1000000 ∧ n.offset = m.offset := by
  rw [← Moment.addSeconds?_eq_some_iff]
  unfold addSeconds
  cases m.addSeconds? seconds <;> simp

theorem addSeconds_eq_error_iff {m : Moment} {seconds : Int} {e : MomentError} :
    addSeconds m seconds = .error e ↔
      (m.microseconds + seconds * 1000000 < 0 ∨
        Moment.endMicroseconds ≤ m.microseconds + seconds * 1000000) ∧ e = .shiftTooLarge := by
  rw [← Moment.addSeconds?_eq_none_iff]
  unfold addSeconds
  cases m.addSeconds? seconds <;> simp [eq_comm]

theorem apply_eq_ok_iff {shift : Shift} {ago : Bool} {m n : Moment} :
    shift.apply ago m = .ok n ↔ shift.Readable ∧ Moves shift ago m n := by
  by_cases readable : shift.Readable
  · rw [and_iff_right readable]
    rcases months_or_seconds shift.unit with ⟨length, isLength, other⟩ | ⟨length, isLength, other⟩
    · rw [apply_of_months readable isLength, addMonths_eq_ok_iff]
      constructor
      · exact .months isLength
      · rintro (⟨same, later⟩ | ⟨isSeconds, _, _⟩)
        · cases isLength.symm.trans same
          exact later
        · cases other.symm.trans isSeconds
    · rw [apply_of_seconds readable isLength, addSeconds_eq_ok_iff]
      constructor
      · rintro ⟨moved, offset⟩
        exact .seconds isLength moved offset
      · rintro (⟨isMonths, _⟩ | ⟨same, moved, offset⟩)
        · cases other.symm.trans isMonths
        · cases isLength.symm.trans same
          exact ⟨moved, offset⟩
  · simp [apply_of_not_readable readable, readable]

section

variable {shift : Shift} {ago : Bool} {m : Moment} {e : MomentError} {length : Nat}

theorem stuck_iff_of_not_readable (long : ¬ shift.Readable) :
    Stuck shift ago m e ↔ e = .amountTooLong shift.digits.length := by
  constructor
  · rintro (⟨_⟩ | ⟨readable, _, _, _, _⟩ | ⟨readable, _, _, _⟩ | ⟨readable, _, _, _⟩)
    · rfl
    all_goals exact absurd readable long
  · rintro rfl
    exact .unreadable long

theorem stuck_iff_of_months (readable : shift.Readable) (isLength : shift.unit.months? = some length)
    (other : shift.unit.seconds? = none) :
    Stuck shift ago m e ↔ ∃ year, year = (m.monthIndex + shift.amount ago * length) / 12 ∧
      (year < 1 ∨ 9999 < year) ∧
      e = if -maxYear - 1 ≤ year ∧ year ≤ maxYear then .yearOutOfRange year else .shiftTooLarge := by
  constructor
  · rintro (⟨long⟩ | ⟨_, same, isYear, outside, named⟩ | ⟨_, same, isYear, tooFar⟩ |
      ⟨_, isSeconds, _, _⟩)
    · exact absurd readable long
    · cases isLength.symm.trans same
      exact ⟨_, isYear, outside, (if_pos named).symm⟩
    · cases isLength.symm.trans same
      refine ⟨_, isYear, ?_, (if_neg tooFar).symm⟩
      unfold maxYear at tooFar
      omega
    · cases other.symm.trans isSeconds
  · rintro ⟨year, isYear, outside, rfl⟩
    split
    · next named => exact .noYear readable isLength isYear outside named
    · next tooFar => exact .tooFarByMonths readable isLength isYear tooFar

theorem stuck_iff_of_seconds (readable : shift.Readable)
    (isLength : shift.unit.seconds? = some length) (other : shift.unit.months? = none) :
    Stuck shift ago m e ↔ (m.microseconds + shift.amount ago * length * 1000000 < 0 ∨
      Moment.endMicroseconds ≤ m.microseconds + shift.amount ago * length * 1000000) ∧
      e = .shiftTooLarge := by
  constructor
  · rintro (⟨long⟩ | ⟨_, isMonths, _, _, _⟩ | ⟨_, isMonths, _, _⟩ | ⟨_, same, isMicros, outside⟩)
    · exact absurd readable long
    · cases other.symm.trans isMonths
    · cases other.symm.trans isMonths
    · cases isLength.symm.trans same
      rw [isMicros] at outside
      exact ⟨outside, rfl⟩
  · rintro ⟨outside, rfl⟩
    exact .tooFarBySeconds readable isLength rfl outside

theorem apply_eq_error_iff : shift.apply ago m = .error e ↔ Stuck shift ago m e := by
  by_cases readable : shift.Readable
  · rcases months_or_seconds shift.unit with ⟨length, isLength, other⟩ | ⟨length, isLength, other⟩
    · rw [apply_of_months readable isLength, addMonths_eq_error_iff,
        stuck_iff_of_months readable isLength other]
    · rw [apply_of_seconds readable isLength, addSeconds_eq_error_iff,
        stuck_iff_of_seconds readable isLength other]
  · rw [apply_of_not_readable readable, stuck_iff_of_not_readable readable, Except.error.injEq,
      eq_comm]

end

end Shift

/-! ### One offset after the other -/

/-- A moment is moved by some offsets, from left to right. -/
inductive Follows (ago : Bool) : List Shift → Moment → Moment → Prop where
  | nil {m : Moment} : Follows ago [] m m
  | cons {shift : Shift} {shifts : List Shift} {m n p : Moment} :
    Shift.Moves shift ago m n → Follows ago shifts n p → Follows ago (shift :: shifts) m p

theorem applyAll_cons (shift : Shift) (shifts : List Shift) (ago : Bool) (m : Moment) :
    applyAll (shift :: shifts) ago m = shift.apply ago m >>= applyAll shifts ago := by
  unfold applyAll
  rw [List.foldlM_cons]

theorem applyAll_eq_ok_iff {shifts : List Shift} {ago : Bool} {m n : Moment} :
    applyAll shifts ago m = .ok n ↔ (∀ shift ∈ shifts, shift.Readable) ∧ Follows ago shifts m n := by
  induction shifts generalizing m with
  | nil =>
    constructor
    · rintro ⟨⟩
      exact ⟨by simp, .nil⟩
    · rintro ⟨_, ⟨⟩⟩
      rfl
  | cons shift shifts inductionHypothesis =>
    rw [applyAll_cons, except_bind_eq_ok_iff, List.forall_mem_cons]
    simp only [inductionHypothesis, Shift.apply_eq_ok_iff]
    constructor
    · rintro ⟨next, ⟨readable, moves⟩, others, follows⟩
      exact ⟨⟨readable, others⟩, .cons moves follows⟩
    · rintro ⟨⟨readable, others⟩, ⟨⟩ | ⟨moves, follows⟩⟩
      exact ⟨_, ⟨readable, moves⟩, others, follows⟩

/-- Offsets fail where the first of them is stuck, after those before it have been applied. -/
theorem applyAll_eq_error_iff {shifts : List Shift} {ago : Bool} {m : Moment} {e : MomentError} :
    applyAll shifts ago m = .error e ↔ ∃ before shift after n, shifts = before ++ shift :: after ∧
      (∀ shift ∈ before, shift.Readable) ∧ Follows ago before m n ∧ Shift.Stuck shift ago n e := by
  induction shifts generalizing m with
  | nil =>
    constructor
    · rintro ⟨⟩
    · rintro ⟨before, shift, after, _, none, _⟩
      simp at none
  | cons shift shifts inductionHypothesis =>
    rw [applyAll_cons, except_bind_eq_error_iff]
    simp only [inductionHypothesis, Shift.apply_eq_ok_iff, Shift.apply_eq_error_iff]
    constructor
    · rintro (stuck | ⟨next, ⟨readable, moves⟩, before, other, after, n, rfl, others, follows, stuck⟩)
      · exact ⟨[], shift, shifts, m, rfl, by simp, .nil, stuck⟩
      · exact ⟨shift :: before, other, after, n, rfl, List.forall_mem_cons.mpr ⟨readable, others⟩,
          .cons moves follows, stuck⟩
    · rintro ⟨before, other, after, n, cut, readable, follows, stuck⟩
      cases follows with
      | nil =>
        cases cut
        exact .inl stuck
      | cons moves follows =>
        cases cut
        rw [List.forall_mem_cons] at readable
        exact .inr ⟨_, ⟨readable.1, moves⟩, _, other, after, n, rfl, readable.2, follows, stuck⟩

end Expression

end PromptTree.Calendar
