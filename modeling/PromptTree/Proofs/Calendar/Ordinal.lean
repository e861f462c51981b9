import Mathlib.Order.Nat
import PromptTree.Calendar.Date

/-!
Days and their numbers. A year is split off a number by cycles of 400, 100, 4 and 1 years, and a month
off the rest by the lengths of the months. Main statements: the day of a number has this number
(`ofOrdinal?_eq_some_iff`), and the days of the calendar have the numbers 1 to 3652059, each one day
(`exists_ordinal_eq_iff`).
-/

namespace PromptTree.Calendar

/-! ### Years -/

def yearLength (year : Nat) : Nat :=
  if isLeap year then 366 else 365

theorem isLeap_iff (year : Nat) :
    isLeap year = true ↔ year % 4 = 0 ∧ (year % 100 ≠ 0 ∨ year % 400 = 0) := by
  unfold isLeap
  simp only [Bool.and_eq_true, Bool.or_eq_true, beq_iff_eq, bne_iff_ne]
  omega

/-- The days before a year that lies so many cycles of 400, 100, 4 and 1 years after the first. -/
theorem daysBeforeYear_cycles (a : Nat) {b c d : Nat} (hb : b < 4) (hc : c < 25) (hd : d < 4) :
    daysBeforeYear (400 * a + 100 * b + 4 * c + d + 1) =
      146097 * a + 36524 * b + 1461 * c + 365 * d := by
  unfold daysBeforeYear
  dsimp only
  omega

theorem exists_cycles {year : Nat} (positive : 1 ≤ year) :
    ∃ a b c d, b < 4 ∧ c < 25 ∧ d < 4 ∧ year = 400 * a + 100 * b + 4 * c + d + 1 :=
  ⟨(year - 1) / 400, (year - 1) % 400 / 100, (year - 1) % 100 / 4, (year - 1) % 4, by omega⟩

/-- The last year of a cycle of four is leap, unless it is the last of a cycle of a hundred; but the
last of a cycle of four hundred is leap again. -/
theorem isLeap_cycles (a : Nat) {b c d : Nat} (hb : b < 4) (hc : c < 25) (hd : d < 4) :
    isLeap ((400 * a + 100 * b + 4 * c + d + 1 : Nat) : Int) = true ↔ d = 3 ∧ (c = 24 → b = 3) := by
  rw [isLeap_iff]
  omega

theorem daysBeforeYear_succ {year : Nat} (positive : 1 ≤ year) :
    daysBeforeYear (year + 1) = daysBeforeYear year + yearLength year := by
  obtain ⟨a, b, c, d, hb, hc, hd, rfl⟩ := exists_cycles positive
  have leap := isLeap_cycles a hb hc hd
  have zero : 0 < 4 ∧ 0 < 25 := by decide
  unfold yearLength
  rw [daysBeforeYear_cycles a hb hc hd]
  by_cases lastOfFour : d = 3
  · by_cases lastOfHundred : c = 24
    · by_cases lastOfFourHundred : b = 3
      · have next : 400 * a + 100 * b + 4 * c + d + 1 + 1 =
            400 * (a + 1) + 100 * 0 + 4 * 0 + 0 + 1 := by omega
        rw [next, daysBeforeYear_cycles _ zero.1 zero.2 zero.1,
          if_pos (leap.mpr ⟨lastOfFour, fun _ => lastOfFourHundred⟩)]
        omega
      · have next : 400 * a + 100 * b + 4 * c + d + 1 + 1 =
            400 * a + 100 * (b + 1) + 4 * 0 + 0 + 1 := by omega
        rw [next, daysBeforeYear_cycles _ (by omega) zero.2 zero.1,
          if_neg (fun isLeap => lastOfFourHundred ((leap.mp isLeap).2 lastOfHundred))]
        omega
    · have next : 400 * a + 100 * b + 4 * c + d + 1 + 1 =
          400 * a + 100 * b + 4 * (c + 1) + 0 + 1 := by omega
      rw [next, daysBeforeYear_cycles _ hb (by omega) zero.1,
        if_pos (leap.mpr ⟨lastOfFour, fun last => absurd last lastOfHundred⟩)]
      omega
  · have next : 400 * a + 100 * b + 4 * c + d + 1 + 1 =
        400 * a + 100 * b + 4 * c + (d + 1) + 1 := by omega
    rw [next, daysBeforeYear_cycles _ hb hc (by omega),
      if_neg (fun isLeap => lastOfFour (leap.mp isLeap).1)]
    omega

theorem daysBeforeYear_mono {year other : Nat} (positive : 1 ≤ year) (le : year ≤ other) :
    daysBeforeYear year ≤ daysBeforeYear other := by
  induction other, le using Nat.le_induction with
  | base => exact Nat.le_refl _
  | succ other le inductionHypothesis =>
    rw [daysBeforeYear_succ (Nat.le_trans positive le)]
    omega

/-! ### Months -/

theorem daysBeforeMonth_succ (year : Nat) {month : Nat} (positive : 1 ≤ month) :
    daysBeforeMonth year (month + 1) = daysBeforeMonth year month + monthLength year month := by
  obtain ⟨month, rfl⟩ := Nat.exists_eq_add_of_le' positive
  unfold daysBeforeMonth
  rw [Nat.add_sub_cancel, Nat.add_sub_cancel, List.range_succ, List.foldl_append]
  rfl

theorem daysBeforeMonth_one (year : Nat) : daysBeforeMonth year 1 = 0 := rfl

theorem monthLength_pos (year : Int) (month : Nat) : 28 ≤ monthLength year month := by
  unfold monthLength
  split
  · split <;> omega
  all_goals omega

theorem daysBeforeMonth_mono (year : Nat) {month other : Nat} (positive : 1 ≤ month)
    (le : month ≤ other) : daysBeforeMonth year month ≤ daysBeforeMonth year other := by
  induction other, le using Nat.le_induction with
  | base => exact Nat.le_refl _
  | succ other le inductionHypothesis =>
    rw [daysBeforeMonth_succ year (Nat.le_trans positive le)]
    omega

theorem daysBeforeMonth_thirteen (year : Nat) : daysBeforeMonth year 13 = yearLength year := by
  unfold daysBeforeMonth yearLength
  simp [List.range_succ, monthLength]
  split <;> rfl

namespace Date

/-! ### The day of a number -/

/-- A number with what it leaves over after cycles of 400, 100, 4 and 1 years. The last day of a leap
year makes a fifth year in a cycle of four, or a fifth hundred in a cycle of four hundred. -/
theorem exists_splitting (n : Nat) :
    ∃ a b c d e, n = 146097 * a + 36524 * b + 1461 * c + 365 * d + e ∧ e < 365 ∧
      (b < 4 ∧ c < 25 ∧ d < 4 ∨ b < 4 ∧ c < 24 ∧ d = 4 ∧ e = 0 ∨
        b = 4 ∧ c = 0 ∧ d = 0 ∧ e = 0) ∧
      n / 146097 = a ∧ n % 146097 / 36524 = b ∧ n % 146097 % 36524 / 1461 = c ∧
      n % 146097 % 36524 % 1461 / 365 = d :=
  ⟨n / 146097, n % 146097 / 36524, n % 146097 % 36524 / 1461, n % 146097 % 36524 % 1461 / 365,
    n % 146097 % 36524 % 1461 % 365, by omega⟩

/-- The year that is split off a number is the one that the number falls into. -/
theorem yearOf_spec {n : Nat} (positive : 1 ≤ n) :
    1 ≤ yearOf n ∧ daysBeforeYear (yearOf n) < n ∧ n ≤ daysBeforeYear (yearOf n + 1) := by
  obtain ⟨n, rfl⟩ := Nat.exists_eq_add_of_le' positive
  obtain ⟨a, b, c, d, e, whole, he, cases, ha, hb, hc, hd⟩ := exists_splitting n
  have zero : 0 < 4 ∧ 0 < 25 := by decide
  have split : yearOf (n + 1) =
      if (d == 4 || b == 4) = true then a * 400 + b * 100 + c * 4 + d
      else a * 400 + b * 100 + c * 4 + d + 1 := by
    unfold yearOf
    simp only [Nat.add_sub_cancel, ha, hb, hc, hd]
  rcases cases with ⟨hb, hc, hd⟩ | ⟨hb, hc, rfl, rfl⟩ | ⟨rfl, rfl, rfl, rfl⟩
  · have usual : (d == 4 || b == 4) = false := by
      simp only [Bool.or_eq_false_iff, beq_eq_false_iff_ne]
      omega
    have year : yearOf (n + 1) = 400 * a + 100 * b + 4 * c + d + 1 := by
      rw [split, usual, if_neg Bool.false_ne_true]
      omega
    have next := daysBeforeYear_succ (show 1 ≤ 400 * a + 100 * b + 4 * c + d + 1 by omega)
    have length : 365 ≤ yearLength (400 * a + 100 * b + 4 * c + d + 1) := by
      unfold yearLength
      split <;> omega
    rw [year, next, daysBeforeYear_cycles a hb hc hd]
    omega
  · have year : yearOf (n + 1) = 400 * a + 100 * b + 4 * c + 3 + 1 := by
      rw [split, beq_self_eq_true, Bool.true_or, if_pos rfl]
      omega
    have next : 400 * a + 100 * b + 4 * c + 3 + 1 + 1 = 400 * a + 100 * b + 4 * (c + 1) + 0 + 1 := by
      omega
    rw [year, next, daysBeforeYear_cycles a hb (by omega) (by decide),
      daysBeforeYear_cycles a hb (by omega) zero.1]
    omega
  · have year : yearOf (n + 1) = 400 * a + 100 * 3 + 4 * 24 + 3 + 1 := by
      rw [split, beq_self_eq_true, Bool.or_true, if_pos rfl]
      omega
    have next : 400 * a + 100 * 3 + 4 * 24 + 3 + 1 + 1 = 400 * (a + 1) + 100 * 0 + 4 * 0 + 0 + 1 := by
      omega
    have last := daysBeforeYear_cycles a (show 3 < 4 by decide) (show 24 < 25 by decide)
      (show 3 < 4 by decide)
    rw [year, next, last, daysBeforeYear_cycles (a + 1) zero.1 zero.2 zero.1]
    omega

/-- The month that is split off the rest of a number, and what is left of it. -/
theorem monthOf_spec (year bound : Nat) {month dayOfYear : Nat} (positive : 1 ≤ month)
    (some : 1 ≤ dayOfYear) :
    let (m, day) := monthOf year month dayOfYear bound
    month ≤ m ∧ m ≤ month + bound ∧ 1 ≤ day ∧
      daysBeforeMonth year m + day = daysBeforeMonth year month + dayOfYear ∧
      (m < month + bound → day ≤ monthLength year m) := by
  induction bound generalizing month dayOfYear with
  | zero => simp [monthOf, some]
  | succ bound inductionHypothesis =>
    unfold monthOf
    by_cases inMonth : dayOfYear ≤ monthLength year month
    · rw [if_pos inMonth]
      simp [inMonth, some]
    · rw [if_neg inMonth]
      have later := inductionHypothesis (show 1 ≤ month + 1 by omega)
        (show 1 ≤ dayOfYear - monthLength year month by omega)
      rw [daysBeforeMonth_succ year positive] at later
      generalize monthOf year (month + 1) (dayOfYear - monthLength year month) bound = split at later
      obtain ⟨m, day⟩ := split
      dsimp only at later ⊢
      omega

/-! ### Days -/

/-- A day lies within its month, and its month within its year. -/
theorem dayOfYear_mem (d : Date) : 1 ≤ d.dayOfYear ∧
    daysBeforeMonth d.year d.month < d.dayOfYear ∧
    d.dayOfYear ≤ daysBeforeMonth d.year (d.month + 1) ∧ d.dayOfYear ≤ yearLength d.year := by
  have inMonth := d.day_mem
  have months := daysBeforeMonth_mono d.year (Nat.le_add_left 1 d.month)
    (show d.month + 1 ≤ 13 from Nat.succ_le_succ d.month_mem.2)
  rw [daysBeforeMonth_thirteen] at months
  rw [daysBeforeMonth_succ d.year d.month_mem.1] at months ⊢
  unfold dayOfYear
  omega

theorem ordinal_eq (d : Date) : d.ordinal = daysBeforeYear d.year + d.dayOfYear := by
  unfold ordinal dayOfYear
  omega

theorem ordinal_mem (d : Date) :
    daysBeforeYear d.year < d.ordinal ∧ d.ordinal ≤ daysBeforeYear (d.year + 1) := by
  have inYear := d.dayOfYear_mem
  rw [ordinal_eq, daysBeforeYear_succ d.year_mem.1]
  omega

theorem ordinal_lt_of_year_lt {d e : Date} (earlier : d.year < e.year) : d.ordinal < e.ordinal := by
  have dMem := d.ordinal_mem
  have eMem := e.ordinal_mem
  have apart := daysBeforeYear_mono (Nat.le_add_left 1 _) (Nat.succ_le_of_lt earlier)
  omega

theorem ordinal_lt_of_month_lt {d e : Date} (sameYear : d.year = e.year)
    (earlier : d.month < e.month) : d.ordinal < e.ordinal := by
  have dDay := d.dayOfYear_mem
  have eDay := e.dayOfYear_mem
  have apart := daysBeforeMonth_mono e.year (Nat.le_add_left 1 _) (Nat.succ_le_of_lt earlier)
  rw [ordinal_eq, ordinal_eq, sameYear]
  rw [sameYear] at dDay
  omega

/-- Two days with the same number are the same. -/
theorem ordinal_injective {d e : Date} (same : d.ordinal = e.ordinal) : d = e := by
  have sameYear : d.year = e.year := by
    rcases Nat.lt_trichotomy d.year e.year with lt | equal | lt
    · exact absurd same (Nat.ne_of_lt (ordinal_lt_of_year_lt lt))
    · exact equal
    · exact absurd same.symm (Nat.ne_of_lt (ordinal_lt_of_year_lt lt))
  have sameMonth : d.month = e.month := by
    rcases Nat.lt_trichotomy d.month e.month with lt | equal | lt
    · exact absurd same (Nat.ne_of_lt (ordinal_lt_of_month_lt sameYear lt))
    · exact equal
    · exact absurd same.symm (Nat.ne_of_lt (ordinal_lt_of_month_lt sameYear.symm lt))
  have sameDay : d.dayOfYear = e.dayOfYear := by
    rw [ordinal_eq, ordinal_eq, sameYear] at same
    omega
  unfold dayOfYear at sameDay
  rw [sameYear, sameMonth] at sameDay
  have same : of? d.year d.month d.day = some e :=
    of?_eq_some_iff.mpr ⟨sameYear.symm, sameMonth.symm, by omega⟩
  exact Option.some.inj ((of?_eq_some_iff.mpr ⟨rfl, rfl, rfl⟩).symm.trans same)

def lastOrdinal : Nat := 3652059

theorem daysBeforeYear_afterLast : daysBeforeYear 10000 = lastOrdinal := by
  decide

theorem ordinal_le_last (d : Date) : 1 ≤ d.ordinal ∧ d.ordinal ≤ lastOrdinal := by
  have inYear := d.ordinal_mem
  have years := daysBeforeYear_mono (Nat.le_add_left 1 d.year)
    (show d.year + 1 ≤ 10000 from Nat.succ_le_succ d.year_mem.2)
  have whole := daysBeforeYear_afterLast
  omega

theorem yearOf_le_iff {n : Nat} (positive : 1 ≤ n) : yearOf n ≤ 9999 ↔ n ≤ lastOrdinal := by
  obtain ⟨yearPos, after, before⟩ := yearOf_spec positive
  have whole := daysBeforeYear_afterLast
  constructor
  · intro le
    have early := daysBeforeYear_mono (Nat.le_add_left 1 _) (show yearOf n + 1 ≤ 10000 by omega)
    omega
  · intro le
    rcases Nat.lt_or_ge 9999 (yearOf n) with lt | le
    · have late := daysBeforeYear_mono (by decide) (show 10000 ≤ yearOf n from lt)
      omega
    · exact le

theorem ofOrdinal?_natCast {n : Nat} (positive : 1 ≤ n) :
    ofOrdinal? n =
      of? (yearOf n) (monthOf (yearOf n) 1 (n - daysBeforeYear (yearOf n)) 11).1
        (monthOf (yearOf n) 1 (n - daysBeforeYear (yearOf n)) 11).2 := by
  unfold ofOrdinal?
  rw [if_neg (by omega), Int.toNat_natCast]

/-- A number of the calendar is the number of the day that it leads to. -/
theorem exists_ofOrdinal? {n : Nat} (positive : 1 ≤ n) (le : n ≤ lastOrdinal) :
    ∃ d, ofOrdinal? n = some d ∧ d.ordinal = n := by
  obtain ⟨yearPos, after, before⟩ := yearOf_spec positive
  rw [daysBeforeYear_succ yearPos] at before
  have spec := monthOf_spec (yearOf n) 11 (Nat.le_refl 1)
    (show 1 ≤ n - daysBeforeYear (yearOf n) by omega)
  rw [ofOrdinal?_natCast positive]
  generalize monthOf (yearOf n) 1 (n - daysBeforeYear (yearOf n)) 11 = split at spec
  obtain ⟨month, day⟩ := split
  obtain ⟨monthPos, monthLe, dayPos, sum, inMonth⟩ := spec
  rw [daysBeforeMonth_one] at sum
  have dayLe : day ≤ monthLength (yearOf n) month := by
    rcases Nat.lt_or_ge month 12 with lt | ge
    · exact inMonth lt
    · obtain rfl : month = 12 := by omega
      have year := daysBeforeMonth_thirteen (yearOf n)
      rw [daysBeforeMonth_succ _ (by decide)] at year
      omega
  refine ⟨⟨yearOf n, month, day, ⟨yearPos, (yearOf_le_iff positive).mpr le⟩, ⟨monthPos, monthLe⟩,
    ⟨dayPos, dayLe⟩⟩, of?_eq_some_iff.mpr ⟨rfl, rfl, rfl⟩, ?_⟩
  unfold ordinal
  dsimp only
  omega

theorem ofOrdinal?_ordinal (d : Date) : ofOrdinal? d.ordinal = some d := by
  obtain ⟨e, found, same⟩ := exists_ofOrdinal? d.ordinal_le_last.1 d.ordinal_le_last.2
  rw [found, ordinal_injective same]

theorem ofOrdinal?_eq_some_iff {n : Int} {d : Date} :
    ofOrdinal? n = some d ↔ (d.ordinal : Int) = n := by
  constructor
  · intro found
    have positive : 1 ≤ n := by
      unfold ofOrdinal? at found
      split at found
      · cases found
      · omega
    obtain ⟨n, rfl⟩ := Int.eq_ofNat_of_zero_le (Int.le_trans (by decide) positive)
    have positive : 1 ≤ n := by omega
    have isYear := found
    rw [ofOrdinal?_natCast positive] at isYear
    have inCalendar : yearOf n ≤ 9999 := (of?_eq_some_iff.mp isYear).1 ▸ d.year_mem.2
    obtain ⟨e, isDay, same⟩ := exists_ofOrdinal? positive ((yearOf_le_iff positive).mp inCalendar)
    obtain rfl : e = d := Option.some.inj (isDay.symm.trans found)
    exact congrArg Int.ofNat same
  · rintro rfl
    exact ofOrdinal?_ordinal d

theorem exists_ordinal_eq_iff {n : Int} :
    (∃ d : Date, (d.ordinal : Int) = n) ↔ 1 ≤ n ∧ n ≤ lastOrdinal := by
  constructor
  · rintro ⟨d, rfl⟩
    have mem := d.ordinal_le_last
    omega
  · rintro ⟨positive, le⟩
    obtain ⟨d, _, same⟩ := exists_ofOrdinal? (n := n.toNat) (by omega) (by omega)
    exact ⟨d, by omega⟩

end Date

end PromptTree.Calendar
