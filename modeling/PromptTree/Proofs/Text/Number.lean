import Mathlib.Algebra.Ring.Nat
import PromptTree.Text.Digit

/-!
Whole numbers as texts. Main statement: a number that is written in decimal is read back, unless it
has more digits than a reader accepts (`readInt?_toString`).
-/

namespace PromptTree.Text

/-- There is nothing to trim if neither end satisfies the condition. -/
theorem trimWhile_eq_self {p : Char → Bool} {cs : List Char}
    (first : ∀ c, cs.head? = some c → p c = false)
    (last : ∀ c, cs.getLast? = some c → p c = false) : trimWhile p cs = cs := by
  have kept (cs : List Char) (first : ∀ c, cs.head? = some c → p c = false) :
      cs.dropWhile p = cs := by
    cases cs with
    | nil => rfl
    | cons c cs => rw [List.dropWhile_cons, first c rfl, if_neg Bool.false_ne_true]
  unfold trimWhile dropEndWhile
  rw [kept cs first, kept cs.reverse, List.reverse_reverse]
  intro c isLast
  rw [List.head?_reverse] at isLast
  exact last c isLast

theorem digitValue?_digitChar : ∀ d < 10, digitValue? (Nat.digitChar d) = some d := by
  decide

theorem isNumberBlank_digitChar : ∀ d < 10, isNumberBlank (Nat.digitChar d) = false := by
  decide

theorem digitChar_ne : ∀ d < 10,
    Nat.digitChar d ≠ '_' ∧ Nat.digitChar d ≠ '-' ∧ Nat.digitChar d ≠ '+' := by
  decide

theorem groupedDigits?_map_digitChar {digits : List Nat} (small : ∀ d ∈ digits, d < 10)
    (notEmpty : digits ≠ []) : groupedDigits? (digits.map Nat.digitChar) = some digits := by
  induction digits with
  | nil => exact absurd rfl notEmpty
  | cons d digits inductionHypothesis =>
    rw [List.forall_mem_cons] at small
    cases digits with
    | nil => simp [groupedDigits?, digitValue?_digitChar d small.1]
    | cons next digits =>
      have later := inductionHypothesis small.2 (List.cons_ne_nil _ _)
      have noSeparator := (digitChar_ne next (small.2 next List.mem_cons_self)).1
      rw [List.map_cons] at later ⊢
      rw [groupedDigits?]
      · simp [digitValue?_digitChar d small.1, later]
      · simp
      · intro rest same
        rw [List.map_cons] at same
        exact noSeparator (List.cons.inj same).1

/-- A number written in decimal, digit by digit. -/
theorem exists_digits (n : Nat) : ∃ digits, digits ≠ [] ∧ (∀ d ∈ digits, d < 10) ∧
    Nat.toDigits 10 n = digits.map Nat.digitChar ∧ numberOfDigits 10 digits = n := by
  induction n using Nat.strongRecOn with
  | ind n inductionHypothesis =>
    by_cases small : n < 10
    · exact ⟨[n], by simp, by simpa using small, Nat.toDigits_of_lt_base small,
        by simp [numberOfDigits]⟩
    · obtain ⟨digits, _, leading, written, value⟩ := inductionHypothesis (n / 10) (by omega)
      refine ⟨digits ++ [n % 10], by simp, ?_, ?_, ?_⟩
      · intro d isDigit
        rcases List.mem_append.mp isDigit with isDigit | isLast
        · exact leading d isDigit
        · rw [List.mem_singleton.mp isLast]
          omega
      · rw [Nat.toDigits_of_base_le (by decide) (by omega), written, List.map_append]
        rfl
      · unfold numberOfDigits at value ⊢
        rw [List.foldl_append, value]
        simp only [List.foldl_cons, List.foldl_nil]
        omega

theorem readInt?_toString (n : Nat) :
    readInt? (toString n) = if n < 10 ^ maxNumberDigits then some (n : Int) else none := by
  obtain ⟨digits, notEmpty, small, written, value⟩ := exists_digits n
  have asList : (toString n).toList = digits.map Nat.digitChar := by
    rw [← written]
    exact String.toList_ofList
  have trimmed : trimWhile isNumberBlank (digits.map Nat.digitChar) = digits.map Nat.digitChar := by
    have noBlank : ∀ c ∈ digits.map Nat.digitChar, isNumberBlank c = false := by
      intro c isChar
      obtain ⟨d, isDigit, rfl⟩ := List.mem_map.mp isChar
      exact isNumberBlank_digitChar d (small d isDigit)
    apply trimWhile_eq_self
    · intro c isFirst
      exact noBlank c (List.mem_of_head? isFirst)
    · intro c isLast
      exact noBlank c (List.mem_of_getLast? isLast)
  have count : digits.length ≤ maxNumberDigits ↔ n < 10 ^ maxNumberDigits := by
    rw [← Nat.length_toDigits_le_iff (by decide) (by decide), written, List.length_map]
  have grouped := groupedDigits?_map_digitChar small notEmpty
  obtain ⟨d, rest, rfl⟩ := List.exists_cons_of_ne_nil notEmpty
  obtain ⟨_, noMinus, noPlus⟩ := digitChar_ne d (small d List.mem_cons_self)
  unfold readInt?
  rw [asList, trimmed]
  unfold readTrimmedInt?
  rw [List.map_cons] at grouped ⊢
  dsimp only
  split
  · next same => exact absurd (List.cons.inj same).1 noMinus
  · next same => exact absurd (List.cons.inj same).1 noPlus
  · rw [grouped, Option.bind_eq_bind, Option.bind_some, value]
    by_cases readable : n < 10 ^ maxNumberDigits
    · rw [if_neg (Nat.not_lt.mpr (count.mpr readable)), if_pos readable]
      rfl
    · rw [if_pos (Nat.lt_of_not_le (mt count.mp readable)), if_neg readable]
      rfl

end PromptTree.Text
