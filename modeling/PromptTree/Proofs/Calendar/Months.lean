import PromptTree.Proofs.Calendar.Shift

/-!
Arithmetic with months. Days are in the order of their months, and within a month of their days
(`Moment.ordinal_le_iff`), and a shift moves every month by the same number of months, so it keeps
this order; the last days of a month may fall together, but never change places. A day that every
month has is never cut, so shifts of it add up. Main statement: `addMonths_exact`.
-/

namespace PromptTree.Calendar

namespace Moment

/-! ### The order of days -/

theorem ordinal_lt_of_monthIndex_lt {m n : Moment} (earlier : m.monthIndex < n.monthIndex) :
    m.date.ordinal < n.date.ordinal := by
  have mMonth := m.date.month_mem
  have nMonth := n.date.month_mem
  unfold monthIndex at earlier
  by_cases sameYear : m.date.year = n.date.year
  · apply Date.ordinal_lt_of_month_lt sameYear
    omega
  · apply Date.ordinal_lt_of_year_lt
    omega

theorem month_eq_of_monthIndex_eq {m n : Moment} (same : m.monthIndex = n.monthIndex) :
    m.date.year = n.date.year ∧ m.date.month = n.date.month := by
  have mMonth := m.date.month_mem
  have nMonth := n.date.month_mem
  unfold monthIndex at same
  omega

theorem ordinal_le_iff {m n : Moment} : m.date.ordinal ≤ n.date.ordinal ↔
    m.monthIndex < n.monthIndex ∨ m.monthIndex = n.monthIndex ∧ m.date.day ≤ n.date.day := by
  rcases Int.lt_trichotomy m.monthIndex n.monthIndex with earlier | same | later
  · have lt := ordinal_lt_of_monthIndex_lt earlier
    omega
  · obtain ⟨sameYear, sameMonth⟩ := month_eq_of_monthIndex_eq same
    unfold Date.ordinal
    rw [sameYear, sameMonth]
    omega
  · have lt := ordinal_lt_of_monthIndex_lt later
    omega

namespace MonthsLater

variable {months : Int} {m n : Moment}

/-! ### Shifts -/

/-- Days that are moved by the same number of months stay in their order. -/
theorem mono {other otherLater : Moment} (later : MonthsLater months m n)
    (laterToo : MonthsLater months other otherLater)
    (le : m.date.ordinal ≤ other.date.ordinal) : n.date.ordinal ≤ otherLater.date.ordinal := by
  rw [ordinal_le_iff] at le ⊢
  rw [later.index, laterToo.index]
  rcases le with earlier | ⟨sameIndex, day⟩
  · exact .inl (by omega)
  · have sameLater : n.monthIndex = otherLater.monthIndex := by
      rw [later.index, laterToo.index, sameIndex]
    obtain ⟨sameYear, sameMonth⟩ := month_eq_of_monthIndex_eq sameLater
    refine .inr ⟨by omega, ?_⟩
    rw [later.day, laterToo.day, sameYear, sameMonth]
    omega

/-- A day that every month has stays the same day of the month. -/
theorem day_eq (later : MonthsLater months m n) (early : m.date.day ≤ 28) :
    n.date.day = m.date.day := by
  have length := monthLength_pos n.date.year n.date.month
  rw [later.day]
  omega

end MonthsLater

end Moment

namespace Expression

open Moment Shift

/-- Where a shift lets the day stand, another shift after it does what both do together, and fails if
and as they fail. -/
theorem addMonths_of_monthsLater {months : Int} {m n : Moment} (later : MonthsLater months m n)
    (sameDay : n.date.day = m.date.day) (more : Int) :
    addMonths n more = addMonths m (months + more) := by
  have index : n.monthIndex + more = m.monthIndex + (months + more) := by
    rw [later.index, Int.add_assoc]
  unfold addMonths addMonths?
  rw [index, sameDay, later.time, later.offset]

/-- A shift by months leads to a moment if and only if the month that it leads to is one of the
years 1 to 9999; the moment is in just this month, on the same day or on the last one that the month
has, at the same time and offset. From a day that every month has, two shifts come to the same as
their sum, also where they fail. And a day that does not come after another one does not come after
it either when both have been moved by the same number of months. -/
theorem addMonths_exact (m : Moment) (months : Int) :
    ((∃ n, addMonths m months = .ok n) ↔
        1 ≤ (m.monthIndex + months) / 12 ∧ (m.monthIndex + months) / 12 ≤ 9999) ∧
      ∀ n, addMonths m months = .ok n →
        n.monthIndex = m.monthIndex + months ∧
        n.date.day = min m.date.day (monthLength n.date.year n.date.month) ∧
        n.time = m.time ∧ n.offset = m.offset ∧
        (m.date.day ≤ 28 → ∀ more, addMonths n more = addMonths m (months + more)) ∧
        ∀ other otherLater, addMonths other months = .ok otherLater →
          m.date.ordinal ≤ other.date.ordinal → n.date.ordinal ≤ otherLater.date.ordinal := by
  constructor
  · simp only [addMonths_eq_ok_iff, exists_monthsLater_iff, endMonth]
    omega
  · intro n moved
    have later := addMonths_eq_ok_iff.mp moved
    refine ⟨later.index, later.day, later.time, later.offset, ?_, ?_⟩
    · intro early more
      exact addMonths_of_monthsLater later (later.day_eq early) more
    · intro other otherLater movedToo le
      exact later.mono (addMonths_eq_ok_iff.mp movedToo) le

def february (year day : Nat) (isYear : 1 ≤ year ∧ year ≤ 9999 := by decide)
    (isDay : 1 ≤ day ∧ day ≤ monthLength year 2 := by decide) : Moment :=
  ⟨⟨year, 2, day, isYear, by decide, isDay⟩, .noon, none⟩

/-- The last two days of a February of 29 days fall together a year later. From the day before them a
year further on and a century back is 99 years back. -/
theorem addMonths_exact_february :
    addMonths (february 2024 28) 12 = .ok (february 2025 28) ∧
      addMonths (february 2024 29) 12 = .ok (february 2025 28) ∧
      (february 2024 28).date.ordinal ≤ (february 2024 29).date.ordinal ∧
      (february 2025 28).date.ordinal ≤ (february 2025 28).date.ordinal ∧
      (february 2024 28).date.day ≤ 28 ∧
      addMonths (february 2025 28) (-1200) = addMonths (february 2024 28) (12 + -1200) := by
  have moved : addMonths (february 2024 28) 12 = .ok (february 2025 28) := by decide
  have movedToo : addMonths (february 2024 29) 12 = .ok (february 2025 28) := by decide
  have le : (february 2024 28).date.ordinal ≤ (february 2024 29).date.ordinal := by decide
  have early : (february 2024 28).date.day ≤ 28 := by decide
  obtain ⟨_, _, _, _, sum, order⟩ := (addMonths_exact (february 2024 28) 12).2 _ moved
  exact ⟨moved, movedToo, le, order _ _ movedToo le, early, sum early (-1200)⟩

end Expression

end PromptTree.Calendar
