import Mathlib.Data.List.TakeWhile
import PromptTree.Calendar.Iso

/-!
The ends of a moment in the international notation. The readers take a text apart from the left and do
not always look at its end: a date is read from a piece of known length, and a time may leave something
over. Main statements: a text that is read begins with a digit (`moment?_head`), and it ends with a digit
or the mark of universal time (`moment?_endsAsTime`).
-/

namespace PromptTree.Calendar.Iso

def EndsInDigit (cs : List Char) : Prop :=
  ∃ d, cs.getLast? = some d ∧ d.isDigit = true

theorem EndsInDigit.append {cs : List Char} (ends : EndsInDigit cs) (lead : List Char) :
    EndsInDigit (lead ++ cs) := by
  obtain ⟨d, last, digit⟩ := ends
  exact ⟨d, by rw [List.getLast?_append, last]; rfl, digit⟩

theorem endsInDigit_of_all {cs : List Char} (digits : ∀ d ∈ cs, d.isDigit = true) (some : cs ≠ []) :
    EndsInDigit cs :=
  ⟨cs.getLast some, List.getLast?_eq_some_getLast some, digits _ (List.getLast_mem some)⟩

theorem append_of_digits? {count value : Nat} {cs rest : List Char}
    (found : digits? count cs = some (value, rest)) :
    ∃ ds, cs = ds ++ rest ∧ ds.length = count ∧ ∀ d ∈ ds, d.isDigit = true := by
  unfold digits? at found
  dsimp only at found
  split at found
  · next digits =>
    cases found
    rw [Bool.and_eq_true, beq_iff_eq, List.all_eq_true] at digits
    exact ⟨cs.take count, (List.take_append_drop count cs).symm, digits⟩
  · cases found

theorem endsInDigit_of_digits? {count value : Nat} {cs rest : List Char}
    (found : digits? (count + 1) cs = some (value, rest)) (short : cs.length ≤ count + 1) :
    EndsInDigit cs := by
  obtain ⟨ds, rfl, length, digits⟩ := append_of_digits? found
  rw [List.length_append] at short
  have none : rest = [] := List.eq_nil_of_length_eq_zero (by omega)
  rw [none, List.append_nil]
  exact endsInDigit_of_all digits (List.ne_nil_of_length_eq_add_one length)

/-! ### Dates -/

theorem dateLength_le (cs : List Char) : 4 < dateLength cs ∧ dateLength cs ≤ 10 := by
  unfold dateLength
  grind

theorem dateLength_le_of_not_hyphen {cs : List Char} (noHyphen : cs[4]? ≠ some '-') :
    dateLength cs ≤ 8 := by
  unfold dateLength
  grind

/-- A week is read up to the end, if there are not more characters than a week and its day take. -/
theorem week?_endsInDigit {year : Nat} {hyphens : Bool} {cs : List Char} {date : Date}
    (found : week? year hyphens cs = some date) (short : cs.length ≤ if hyphens then 4 else 3) :
    EndsInDigit cs := by
  obtain ⟨⟨week, rest⟩, isWeek, goesOn⟩ := Option.bind_eq_some_iff.mp found
  clear found
  obtain ⟨ds, rfl, length, _⟩ := append_of_digits? isWeek
  rw [List.length_append, length] at short
  cases rest with
  | nil => exact endsInDigit_of_digits? isWeek (by simp [length])
  | cons c rest =>
    apply EndsInDigit.append
    cases hyphens with
    | true =>
      obtain ⟨later, isLater, ends⟩ := Option.bind_eq_some_iff.mp goesOn
      obtain ⟨⟨day, _⟩, isDay, _⟩ := Option.bind_eq_some_iff.mp ends
      rw [Text.append_of_after? isLater] at short ⊢
      have short : 2 + (later.length + 1) ≤ 4 := short
      exact (endsInDigit_of_digits? isDay (by omega)).append ['-']
    | false =>
      obtain ⟨⟨day, _⟩, isDay, _⟩ := Option.bind_eq_some_iff.mp goesOn
      have short : 2 + (c :: rest).length ≤ 3 := short
      exact endsInDigit_of_digits? isDay (by omega)

/-- A month and its day are read up to the end, if there are not more characters than they take. -/
theorem monthDay_endsInDigit {year : Nat} {hyphens : Bool} {cs : List Char} {date : Date}
    (found : (do
      let (month, rest) ← digits? 2 cs
      let rest ← if hyphens then Text.after? ['-'] rest else some rest
      let (day, _) ← digits? 2 rest
      Date.of? year month day) = some date)
    (short : cs.length ≤ if hyphens then 5 else 4) : EndsInDigit cs := by
  obtain ⟨⟨month, rest⟩, isMonth, goesOn⟩ := Option.bind_eq_some_iff.mp found
  clear found
  obtain ⟨ds, rfl, length, _⟩ := append_of_digits? isMonth
  rw [List.length_append, length] at short
  apply EndsInDigit.append
  cases hyphens with
  | true =>
    obtain ⟨later, isLater, goesOn⟩ := Option.bind_eq_some_iff.mp goesOn
    obtain ⟨⟨day, _⟩, isDay, _⟩ := Option.bind_eq_some_iff.mp goesOn
    rw [Text.append_of_after? isLater] at short ⊢
    have short : 2 + (later.length + 1) ≤ 5 := short
    exact (endsInDigit_of_digits? isDay (by omega)).append ['-']
  | false =>
    obtain ⟨⟨day, _⟩, isDay, _⟩ := Option.bind_eq_some_iff.mp goesOn
    have short : 2 + rest.length ≤ 4 := short
    exact endsInDigit_of_digits? isDay (by omega)

theorem date?_endsInDigit {cs : List Char} {date : Date} (found : date? cs = some date)
    (short : cs.length ≤ 10) (shorter : cs[4]? ≠ some '-' → cs.length ≤ 8) : EndsInDigit cs := by
  obtain ⟨⟨year, rest⟩, isYear, goesOn⟩ := Option.bind_eq_some_iff.mp found
  clear found
  obtain ⟨ds, rfl, length, _⟩ := append_of_digits? isYear
  rw [List.length_append, length] at short shorter
  rw [List.getElem?_append_right (by omega), length] at shorter
  apply EndsInDigit.append
  cases rest with
  | nil => simp [digits?] at goesOn
  | cons c behind =>
    by_cases isHyphen : c = '-'
    · subst isHyphen
      apply EndsInDigit.append _ ['-']
      rw [List.length_cons] at short
      dsimp only at goesOn
      split at goesOn
      · next later same =>
        cases same
        rw [List.length_cons] at short
        exact (week?_endsInDigit goesOn (show later.length ≤ 4 by omega)).append ['W']
      · exact monthDay_endsInDigit goesOn (show behind.length ≤ 5 by omega)
    · have short := shorter (by simpa using isHyphen)
      simp only [List.cons.injEq, isHyphen, false_and, imp_self, implies_true] at goesOn
      split at goesOn
      · next later same =>
        cases same
        rw [List.length_cons] at short
        exact (week?_endsInDigit goesOn (show behind.length ≤ 3 by omega)).append ['W']
      · exact monthDay_endsInDigit goesOn (show (c :: behind).length ≤ 4 by omega)

/-! ### Times -/

theorem fraction?_endsInDigit {clock read : Clock} {cs : List Char}
    (found : fraction? clock cs = some read) (whole : read.leftOver = false) (some : cs ≠ []) :
    EndsInDigit cs := by
  obtain ⟨⟨value, rest⟩, isValue, goesOn⟩ := Option.bind_eq_some_iff.mp found
  obtain ⟨ds, rfl, _, digits⟩ := append_of_digits? isValue
  cases goesOn
  rw [Bool.not_eq_false', List.isEmpty_iff, List.dropWhile_eq_nil_iff] at whole
  refine endsInDigit_of_all ?_ some
  intro d isIn
  exact (List.mem_append.mp isIn).elim (digits d) (whole d)

theorem next_eq_done {colons : Bool} {cs : List Char} (done : next colons cs = .done false) : cs = [] := by
  unfold next at done
  grind

theorem append_of_next {colons : Bool} {cs later : List Char}
    (more : next colons cs = .number later ∨ next colons cs = .fraction later) :
    later ≠ [] ∧ ∃ lead, cs = lead ++ later := by
  rcases cs with _ | ⟨c, _ | ⟨d, rest⟩⟩
  · simp [next] at more
  · simp [next] at more
  · have parts : later = d :: rest ∨ later = c :: d :: rest := by
      unfold next at more
      grind
    rcases parts with rfl | rfl
    · exact ⟨List.cons_ne_nil _ _, [c], rfl⟩
    · exact ⟨List.cons_ne_nil _ _, [], rfl⟩

theorem endsInDigit_of_done {colons : Bool} {value : Nat} {cs rest : List Char}
    (found : digits? 2 cs = some (value, rest)) (done : next colons rest = .done false) :
    EndsInDigit cs := by
  obtain ⟨ds, rfl, length, digits⟩ := append_of_digits? found
  rw [next_eq_done done, List.append_nil]
  exact endsInDigit_of_all digits (List.ne_nil_of_length_eq_add_one length)

theorem endsInDigit_of_next {colons : Bool} {value : Nat} {cs rest later : List Char}
    (found : digits? 2 cs = some (value, rest))
    (more : next colons rest = .number later ∨ next colons rest = .fraction later)
    (ends : later ≠ [] → EndsInDigit later) : EndsInDigit cs := by
  obtain ⟨ds, rfl, _⟩ := append_of_digits? found
  obtain ⟨some, lead, rfl⟩ := append_of_next more
  exact ((ends some).append lead).append ds

/-- One of the three numbers of a time, and what comes behind it. -/
theorem endsInDigit_of_number (clock : Clock) {read : Clock} {colons : Bool} {value : Nat}
    {cs rest : List Char} {more : List Char → Option Clock} (found : digits? 2 cs = some (value, rest))
    (goesOn : (match next colons rest with
      | .broken => none
      | .done leftOver => some { clock with leftOver }
      | .fraction later => fraction? clock later
      | .number later => more later) = some read)
    (whole : read.leftOver = false)
    (ends : ∀ {later}, more later = some read → later ≠ [] → EndsInDigit later) :
    EndsInDigit cs := by
  split at goesOn
  · cases goesOn
  · next done =>
    cases goesOn
    subst whole
    exact endsInDigit_of_done found done
  · next goes => exact endsInDigit_of_next found (.inr goes) (fraction?_endsInDigit goesOn whole)
  · next goes => exact endsInDigit_of_next found (.inl goes) (ends goesOn)

theorem clock?_endsInDigit {cs : List Char} {clock : Clock} (found : clock? cs = some clock)
    (whole : clock.leftOver = false) : EndsInDigit cs := by
  obtain ⟨⟨hour, rest⟩, isHour, goesOn⟩ := Option.bind_eq_some_iff.mp found
  refine endsInDigit_of_number { hour } isHour goesOn whole fun goesOn _ => ?_
  obtain ⟨⟨minute, rest⟩, isMinute, goesOn⟩ := Option.bind_eq_some_iff.mp goesOn
  refine endsInDigit_of_number { hour, minute } isMinute goesOn whole fun goesOn _ => ?_
  obtain ⟨⟨second, rest⟩, isSecond, goesOn⟩ := Option.bind_eq_some_iff.mp goesOn
  exact endsInDigit_of_number { hour, minute, second } isSecond goesOn whole
    fun goesOn => fraction?_endsInDigit goesOn whole

theorem offset?_endsInDigit {sign : Int} {cs : List Char} {offset : Offset}
    (found : offset? sign cs = some offset) : EndsInDigit cs := by
  obtain ⟨clock, isClock, goesOn⟩ := Option.bind_eq_some_iff.mp found
  cases isOver : clock.leftOver with
  | false => exact clock?_endsInDigit isClock isOver
  | true =>
    rw [isOver] at goesOn
    cases (goesOn : none = some offset)

/-- A text that ends with a digit or the mark of universal time. -/
def EndsAsTime (cs : List Char) : Prop :=
  EndsInDigit cs ∨ cs.getLast? = some 'Z'

theorem time?_endsAsTime {cs : List Char} {found : TimeOfDay × Option Offset}
    (isTime : time? cs = some found) : EndsAsTime cs := by
  rw [← List.takeWhile_append_dropWhile (p := (!isZoneMark ·)) (l := cs)]
  unfold time? at isTime
  obtain ⟨clock, isClock, goesOn⟩ := Option.bind_eq_some_iff.mp isTime
  obtain ⟨time, _, zone⟩ := Option.bind_eq_some_iff.mp goesOn
  split at zone
  · next none =>
    rw [none, List.append_nil]
    cases isOver : clock.leftOver with
    | false => exact .inl (clock?_endsInDigit isClock isOver)
    | true => simp [isOver] at zone
  · next universal =>
    rw [universal]
    exact .inr List.getLast?_concat
  · next later isZone =>
    obtain ⟨offset, isOffset, _⟩ := Option.bind_eq_some_iff.mp zone
    rw [isZone]
    exact .inl (((offset?_endsInDigit isOffset).append ['+']).append _)
  · next later isZone =>
    obtain ⟨offset, isOffset, _⟩ := Option.bind_eq_some_iff.mp zone
    rw [isZone]
    exact .inl (((offset?_endsInDigit isOffset).append ['-']).append _)
  · cases zone

/-! ### Moments -/

theorem moment?_endsAsTime {cs : List Char} {m : Moment} (found : moment? cs = some m) : EndsAsTime cs := by
  obtain ⟨date, isDate, goesOn⟩ := Option.bind_eq_some_iff.mp found
  have bounds := dateLength_le cs
  have whole := List.take_append_drop (dateLength cs) cs
  have length := List.length_take_le (dateLength cs) cs
  split at goesOn
  · next none =>
    rw [none, List.append_nil] at whole
    rw [whole] at isDate length
    refine .inl (date?_endsInDigit isDate (by omega) ?_)
    intro noHyphen
    have := dateLength_le_of_not_hyphen noHyphen
    omega
  · next mark rest isRest =>
    obtain ⟨time, isTime, _⟩ := Option.bind_eq_some_iff.mp goesOn
    rw [← whole, isRest]
    rcases time?_endsAsTime isTime with ends | universal
    · exact .inl ((ends.append [mark]).append _)
    · refine .inr ?_
      rw [List.getLast?_append, List.getLast?_cons, universal]
      rfl

theorem moment?_head {cs : List Char} {m : Moment} (found : moment? cs = some m) :
    ∃ c, cs.head? = some c ∧ c.isDigit = true := by
  obtain ⟨date, isDate, _⟩ := Option.bind_eq_some_iff.mp found
  obtain ⟨⟨year, rest⟩, isYear, _⟩ := Option.bind_eq_some_iff.mp isDate
  obtain ⟨ds, whole, length, digits⟩ := append_of_digits? isYear
  obtain ⟨c, ds, rfl⟩ := List.exists_cons_of_length_eq_add_one length
  refine ⟨c, ?_, digits c List.mem_cons_self⟩
  rw [← List.take_append_drop (dateLength cs) cs, whole]
  rfl

end PromptTree.Calendar.Iso
