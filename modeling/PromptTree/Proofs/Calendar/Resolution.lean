import PromptTree.Proofs.Calendar.IsoEnds
import PromptTree.Proofs.Calendar.Phrase

/-!
The moment that an expression names when it is a phrase of offsets. Main statement: however such a phrase is
laid out, the moment is the one that its offsets lead to, each applied once and in order, and the phrase is
never taken for a moment in the international notation (`resolveMoment_written`).
-/

namespace PromptTree.Calendar.Expression

/-! ### Expressions -/

/-- The characters of an expression that are taken apart: blanks at its ends are dropped, and capitals
are lowered. -/
def phraseOf (expression : Option String) : List Char :=
  Text.lowerCharsAfter [] (Text.trimWhile Text.isBlank (expression.getD "").toList)

theorem lower_trim (expression : Option String) :
    Text.lower (Text.trim (expression.getD "")) = .ofList (phraseOf expression) := by
  rw [Text.lower, Text.trim, String.toList_ofList, phraseOf]

theorem moment?_of_read? {expression : Option String} {m : Moment}
    (found : Moment.read? (Text.trim (expression.getD "")) = some m) :
    Iso.moment? (Text.trimWhile Text.isBlank (expression.getD "").toList) = some m := by
  unfold Moment.read? Text.trim at found
  rwa [String.toList_ofList] at found

/-- A text in the international notation still ends with a digit or a letter z when it is lowered. -/
theorem read?_eq_none {expression : Option String} {c : Char} (last : (phraseOf expression).getLast? = some c)
    (notDigit : Text.isDigit c = false) (notZ : c ≠ 'z') :
    Moment.read? (Text.trim (expression.getD "")) = none := by
  rw [Option.eq_none_iff_forall_ne_some]
  intro m found
  rcases Iso.moment?_endsAsTime (moment?_of_read? found) with ⟨d, isLast, digit⟩ | isLast
  · have digit := Text.isDigit_of_ascii digit
    obtain ⟨low, lowers, same⟩ := Text.exists_lowers_getLast isLast []
    rw [phraseOf, same, lowers.of_isLow (Text.isLow_of_isDigit digit)] at last
    obtain rfl : d = c := Option.some.inj last
    rw [digit] at notDigit
    cases notDigit
  · obtain ⟨low, lowers, same⟩ := Text.exists_lowers_getLast isLast []
    have isZ : low = ['z'] := by
      cases lowers with
      | letter => decide
      | dotted special | sigma special | finalSigma special => exact absurd special (by decide)
    rw [phraseOf, same, isZ] at last
    cases last
    exact notZ rfl

/-- A text in the international notation still begins with a digit when it is lowered. -/
theorem read?_eq_none_of_head {expression : Option String} {c : Char}
    (first : (phraseOf expression).head? = some c) (notDigit : Text.isDigit c = false) :
    Moment.read? (Text.trim (expression.getD "")) = none := by
  rw [Option.eq_none_iff_forall_ne_some]
  intro m found
  obtain ⟨d, isFirst, digit⟩ := Iso.moment?_head (moment?_of_read? found)
  have digit := Text.isDigit_of_ascii digit
  obtain ⟨low, lowers, same⟩ := Text.exists_lowers_head isFirst []
  rw [phraseOf, same, lowers.of_isLow (Text.isLow_of_isDigit digit)] at first
  cases first
  rw [digit] at notDigit
  cases notDigit

theorem isEmpty_of_phraseOf {expression : Option String} (some : phraseOf expression ≠ []) :
    (expression.getD "").isEmpty = false ∧ (String.ofList (phraseOf expression)).isEmpty = false := by
  rw [Bool.eq_false_iff, Bool.eq_false_iff, Ne, Ne, String.isEmpty_iff, String.isEmpty_iff]
  constructor
  · intro empty
    rw [phraseOf, empty] at some
    exact some rfl
  · intro empty
    rw [← String.toList_inj, String.toList_ofList] at empty
    exact some empty

theorem resolveMoment_of_word {expression : Option String} {keyword : Keyword}
    (isWord : phraseOf expression = keyword.word.toList) (now : Moment) :
    resolveMoment expression now = keyword.moment now := by
  obtain ⟨notEmpty, some⟩ := isEmpty_of_phraseOf (isWord ▸ keyword.word_ne_nil)
  have found := Keyword.keyword?_eq_some_iff.mpr
    ⟨keyword, String.ofList_toList, (rfl : keyword.moment now = keyword.moment now)⟩
  unfold resolveMoment
  dsimp only
  rw [notEmpty, if_neg Bool.false_ne_true, lower_trim, some, if_neg Bool.false_ne_true, isWord, found]

theorem resolveMoment_eq_relative {expression : Option String} {now : Moment} {c : Char}
    (isIn : c ∈ phraseOf expression) (notLower : c.isLower = false)
    (noStamp : (phraseOf expression).head? ≠ some '@')
    (notRead : Moment.read? (Text.trim (expression.getD "")) = none) :
    resolveMoment expression now = relative (expression.getD "") now (phraseOf expression) := by
  obtain ⟨notEmpty, some⟩ := isEmpty_of_phraseOf (List.ne_nil_of_mem isIn)
  unfold resolveMoment
  dsimp only
  rw [notEmpty, if_neg Bool.false_ne_true, lower_trim, some, if_neg Bool.false_ne_true,
    Keyword.keyword?_eq_none isIn notLower, String.toList_ofList]
  dsimp only
  split
  · next stamp =>
    rw [stamp] at noStamp
    exact absurd rfl noStamp
  · rw [notRead]

/-! ### The moment that a phrase names -/

variable {expression : Option String} {phrase : Phrase}

theorem read?_of_text (isText : phraseOf expression = phrase.text) :
    Moment.read? (Text.trim (expression.getD "")) = none := by
  obtain ⟨c, last, notDigit, notZ⟩ := phrase.getLast?_text
  exact read?_eq_none (isText ▸ last) notDigit notZ

theorem resolveMoment_of_text (isText : phraseOf expression = phrase.text) (now : Moment) :
    resolveMoment expression now = relative (expression.getD "") now phrase.text := by
  obtain ⟨c, isIn, notLower⟩ := phrase.exists_not_lower
  rw [← isText] at isIn ⊢
  exact resolveMoment_eq_relative isIn notLower (isText ▸ phrase.head?_text_ne) (read?_of_text isText)

/-- A phrase names the moment that its offsets lead to from where they start. -/
theorem resolveMoment_of_starts {now base : Moment} (isText : phraseOf expression = phrase.text)
    (starts : Starts now phrase.start base) :
    resolveMoment expression now = applyAll phrase.offsets.shifts phrase.ago base := by
  obtain ⟨other, sameOffsets, sameAgo, start⟩ := startOf_text starts
  rw [resolveMoment_of_text isText, relative_of_startOf start, sameOffsets, sameAgo]

theorem exists_phraseOf_written (phrase : Phrase) : ∃ other : Phrase, other.start = phrase.start ∧
    other.offsets = phrase.offsets ∧ other.ago = phrase.ago ∧
      phraseOf (some (.ofList phrase.text)) = other.text := by
  obtain ⟨other, sameStart, sameOffsets, sameAgo, trimmed⟩ := phrase.trimWhile_text
  refine ⟨other, sameStart, sameOffsets, sameAgo, ?_⟩
  rw [phraseOf, Option.getD_some, String.toList_ofList, trimmed]
  exact Text.lowerCharsAfter_of_isLow (fun c isIn => Phrase.isLow_of_mem isIn) []

/-- If nothing is where the keyword points to, a phrase names no moment. -/
theorem exists_starts_of_resolveMoment {now m : Moment} (isText : phraseOf expression = phrase.text)
    (named : resolveMoment expression now = .ok m) : ∃ base, Starts now phrase.start base := by
  cases isStart : phrase.start with
  | none => exact ⟨now, .absent⟩
  | some keyword =>
    cases isMoment : keyword.moment now with
    | ok base => exact ⟨base, Keyword.moment_eq_ok_iff.mp isMoment⟩
    | error e =>
      have begins : keyword.Begins phrase.text := .inr ⟨phrase.body, by rw [Phrase.text, isStart]⟩
      have failed := startOf_eq_error_iff.mpr ⟨keyword, begins, isMoment⟩
      rw [resolveMoment_of_text isText, relative_of_error failed] at named
      cases named

/-- A phrase of offsets names the moment to which they lead from the moment of its keyword, or from now,
and it names one if all moments on the way exist and no amount has more digits than a number may have. -/
theorem resolveMoment_written (phrase : Phrase) (now m : Moment) :
    (resolveMoment (some (.ofList phrase.text)) now = .ok m ↔
      (∀ shift ∈ phrase.offsets.shifts, shift.Readable) ∧
        ∃ base, Starts now phrase.start base ∧ Follows phrase.ago phrase.offsets.shifts base m) ∧
      Moment.read? (Text.trim (.ofList phrase.text)) = none := by
  obtain ⟨other, sameStart, sameOffsets, sameAgo, isText⟩ := exists_phraseOf_written phrase
  have notRead := read?_of_text isText
  rw [Option.getD_some] at notRead
  refine ⟨?_, notRead⟩
  rw [← sameStart, ← sameOffsets, ← sameAgo]
  constructor
  · intro named
    obtain ⟨base, starts⟩ := exists_starts_of_resolveMoment isText named
    rw [resolveMoment_of_starts isText starts, applyAll_eq_ok_iff] at named
    exact ⟨named.1, base, starts, named.2⟩
  · rintro ⟨readable, base, starts, follows⟩
    rw [resolveMoment_of_starts isText starts, applyAll_eq_ok_iff]
    exact ⟨readable, follows⟩

theorem numberOfDigits_replicate_zero (count : Nat) (digits : List Nat) :
    Text.numberOfDigits 10 (List.replicate count 0 ++ digits) = Text.numberOfDigits 10 digits := by
  induction count with
  | zero => rfl
  | succ count inductionHypothesis => exact inductionHypothesis

def paddedDay (zeros : Nat) : Phrase where
  start := none
  lead := noBlanks
  offsets := {
    first := {
      sign := .absent
      amount := ⟨List.replicate zeros '0' ++ ['1'], by simp, by
        intro c isIn
        rcases List.mem_append.mp isIn with isIn | isIn
        · rw [List.eq_of_mem_replicate isIn]
          decide
        · rw [List.mem_singleton.mp isIn]
          decide⟩
      gap := ⟨[' '], Text.forall_mem_of_all (by decide)⟩
      word := ⟨"day", .day, by decide, false⟩ }
    later := [] }
  trail := noBlanks
  ago := false

theorem shifts_paddedDay (zeros : Nat) :
    (paddedDay zeros).offsets.shifts = [⟨false, List.replicate zeros 0 ++ [1], .day⟩] := by
  have digits : (List.replicate zeros '0' ++ ['1']).filterMap Text.digitValue? = List.replicate zeros 0 ++ [1] := by
    rw [List.filterMap_append, List.filterMap_replicate]
    rfl
  exact congrArg (fun ds => [(⟨false, ds, .day⟩ : Shift)]) digits

/-- A day that is written with too many zeros leads to a moment, but it is not read. -/
theorem not_resolveMoment_of_follows : ¬ ∀ (phrase : Phrase) (now base m : Moment),
    Starts now phrase.start base → Follows phrase.ago phrase.offsets.shifts base m →
      resolveMoment (some (.ofList phrase.text)) now = .ok m := by
  intro claimed
  let now : Moment := ⟨⟨2024, 1, 31, by decide, by decide, by decide⟩, .midnight, none⟩
  let next : Moment := ⟨⟨2024, 2, 1, by decide, by decide, by decide⟩, .midnight, none⟩
  let day : Shift := ⟨false, List.replicate 4300 0 ++ [1], .day⟩
  have isDay : (paddedDay 4300).offsets.shifts = [day] := shifts_paddedDay 4300
  have amount : day.amount false = 1 :=
    congrArg Nat.cast (numberOfDigits_replicate_zero 4300 [1])
  have moves : day.Moves false now next := by
    refine .seconds rfl ?_ rfl
    rw [amount]
    decide
  have follows : Follows false (paddedDay 4300).offsets.shifts now next := by
    rw [isDay]
    exact .cons moves .nil
  have named := claimed (paddedDay 4300) now now next .absent follows
  obtain ⟨other, sameStart, sameOffsets, sameAgo, isText⟩ := exists_phraseOf_written (paddedDay 4300)
  have starts : Starts now other.start now := sameStart ▸ .absent
  rw [resolveMoment_of_starts isText starts, sameOffsets, isDay, applyAll_eq_ok_iff] at named
  have readable := named.1 day List.mem_cons_self
  unfold Shift.Readable at readable
  rw [List.length_append, List.length_replicate] at readable
  exact absurd readable (by decide)

end PromptTree.Calendar.Expression
