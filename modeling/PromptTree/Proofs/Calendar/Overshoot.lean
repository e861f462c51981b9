import PromptTree.Proofs.Calendar.Resolution

/-!
How a phrase fails. A phrase that is not understood is reported as such, but one that is understood may
lead out of the calendar, or have an amount with too many digits, and then it fails with another error.
Main statement: these are the only other failures (`resolveMoment_fails_iff`).
-/

namespace PromptTree.Calendar.Expression

/-- A phrase is understood, but there is no moment where it leads, or an amount on the way has too many
digits. It may be a keyword at an end of the calendar, whatever follows it, or the first of some offsets
that is stuck. -/
inductive Overshoots (now : Moment) (cs : List Char) : MomentError → Prop where
  | keyword {keyword : Keyword} : keyword.Begins cs → keyword.Outside now → Overshoots now cs .shiftTooLarge
  | offsets {phrase : Phrase} {base m : Moment} {before after : List Shift} {shift : Shift} {e : MomentError} :
    cs = phrase.text → Starts now phrase.start base →
    phrase.offsets.shifts = before ++ shift :: after → (∀ shift ∈ before, shift.Readable) →
    Follows phrase.ago before base m → shift.Stuck phrase.ago m e → Overshoots now cs e

theorem Shift.Stuck.ne_notUnderstood {shift : Shift} {ago : Bool} {m : Moment} {e : MomentError}
    (stuck : shift.Stuck ago m e) (given : String) : e ≠ .notUnderstood given := by
  cases stuck <;> simp

theorem Overshoots.ne_notUnderstood {now : Moment} {cs : List Char} {e : MomentError}
    (overshoots : Overshoots now cs e) (given : String) : e ≠ .notUnderstood given := by
  cases overshoots with
  | keyword => simp
  | offsets _ _ _ _ _ stuck => exact stuck.ne_notUnderstood given

/-- The ways in which a phrase is taken: it is a keyword, or it is understood at once or not at all, or it
is taken apart. -/
theorem resolveMoment_cases (expression : Option String) (now : Moment) :
    (∃ m, resolveMoment expression now = .ok m) ∨
      resolveMoment expression now = .error (.notUnderstood (expression.getD "")) ∨
      (∃ keyword : Keyword, phraseOf expression = keyword.word.toList ∧
        resolveMoment expression now = keyword.moment now) ∨
      resolveMoment expression now = relative (expression.getD "") now (phraseOf expression) := by
  by_cases empty : expression.getD "" = ""
  · refine .inl ⟨now, ?_⟩
    unfold resolveMoment
    rw [empty]
    rfl
  · have notEmpty : (expression.getD "").isEmpty = false := by
      rw [Bool.eq_false_iff, Ne, String.isEmpty_iff]
      exact empty
    unfold resolveMoment
    dsimp only
    rw [notEmpty, if_neg Bool.false_ne_true, lower_trim]
    split
    · exact .inl ⟨now, rfl⟩
    · split
      · next outcome isKeyword =>
        obtain ⟨keyword, same, isMoment⟩ := Keyword.keyword?_eq_some_iff.mp isKeyword
        rw [← String.toList_inj, String.toList_ofList] at same
        exact .inr (.inr (.inl ⟨keyword, same, isMoment⟩))
      · rw [String.toList_ofList]
        split
        · split
          · exact .inl ⟨_, rfl⟩
          · exact .inr (.inl rfl)
        · split
          · exact .inl ⟨_, rfl⟩
          · exact .inr (.inr (.inr rfl))

theorem tight_phraseOf (expression : Option String) : Text.Tight (phraseOf expression) := by
  obtain ⟨_, _, _, _, _, tight⟩ := Text.exists_blanks_trimWhile (expression.getD "").toList
  exact tight.lowerCharsAfter []

/-- Behind a keyword there may be more blanks than one space, but none at the end of a trimmed phrase. -/
theorem exists_lead_of_trimWhile {head tail rest : List Char} (tight : Text.Tight (head ++ ' ' :: tail))
    (trimmed : rest = Text.trimWhile Text.isBlank tail) :
    ∃ lead : Blanks, tail = lead.1 ++ rest := by
  obtain ⟨lead, trail, isLead, isTrail, whole, _⟩ := Text.exists_blanks_trimWhile tail
  rw [← trimmed] at whole
  cases last : trail.getLast? with
  | none =>
    rw [List.getLast?_eq_none_iff] at last
    exact ⟨⟨lead, isLead⟩, by rw [whole, last, List.append_nil]⟩
  | some c =>
    have blank := isTrail c (List.mem_of_getLast? last)
    have notBlank := tight.last c (by
      rw [List.getLast?_append, List.getLast?_cons, whole, List.getLast?_append, last]
      rfl)
    rw [notBlank] at blank
    cases blank

theorem overshoots_of_relative {given : String} {now : Moment} {cs : List Char} {e : MomentError}
    (tight : Text.Tight cs) (failed : relative given now cs = .error e) (other : e ≠ .notUnderstood given) :
    Overshoots now cs e := by
  rw [relative_eq, except_bind_eq_error_iff] at failed
  rcases failed with failed | ⟨⟨base, rest⟩, start, failed⟩
  · obtain ⟨keyword, begins, isMoment⟩ := startOf_eq_error_iff.mp failed
    obtain ⟨outside, rfl⟩ := Keyword.moment_eq_error_iff.mp isMoment
    exact .keyword begins outside
  · have isRest := turned_append rest
    dsimp only at failed
    generalize turned rest = split at isRest failed
    obtain ⟨ago, written⟩ := split
    dsimp only at isRest failed
    cases found : shifts? written with
    | none =>
      rw [found] at failed
      cases failed
      exact absurd rfl other
    | some shifts =>
      rw [found] at failed
      obtain ⟨before, shift, after, m, cut, readable, follows, stuck⟩ := applyAll_eq_error_iff.mp failed
      obtain ⟨lead, offsets, trail, rfl, rfl⟩ := shifts?_eq_some_iff.mp found
      simp only [List.append_assoc] at isRest
      rcases startOf_eq_ok start with ⟨rfl, whole⟩ | ⟨keyword, tail, rfl, isMoment, trimmed⟩
      · have isText : cs = Phrase.text ⟨none, lead, offsets, trail, ago⟩ := whole.symm.trans isRest
        exact .offsets isText .absent cut readable follows stuck
      · obtain ⟨front, rfl⟩ := exists_lead_of_trimWhile tight trimmed
        have blank : ∀ c ∈ front.1 ++ lead.1, Text.isBlank c = true := fun c isIn =>
          (List.mem_append.mp isIn).elim (front.2 c) (lead.2 c)
        have isText : keyword.word.toList ++ ' ' :: (front.1 ++ rest) =
            Phrase.text ⟨some keyword, ⟨_, blank⟩, offsets, trail, ago⟩ := by
          simp [Phrase.text, Phrase.body, isRest]
        exact .offsets isText (Keyword.moment_eq_ok_iff.mp isMoment) cut readable follows stuck

theorem resolveMoment_of_outside {expression : Option String} {now : Moment} {keyword : Keyword}
    (begins : keyword.Begins (phraseOf expression)) (outside : keyword.Outside now) :
    resolveMoment expression now = .error .shiftTooLarge := by
  have isMoment := Keyword.moment_eq_error_iff.mpr ⟨outside, rfl⟩
  rcases begins with isWord | ⟨rest, isPhrase⟩
  · exact (resolveMoment_of_word isWord now).trans isMoment
  · have failed := startOf_eq_error_iff.mpr ⟨keyword, .inr ⟨rest, isPhrase⟩, isMoment⟩
    obtain ⟨d, ds, isWord⟩ := List.exists_cons_of_ne_nil keyword.word_ne_nil
    have small := Keyword.isLower_of_mem (isWord ▸ List.mem_cons_self : d ∈ keyword.word.toList)
    have head : (phraseOf expression).head? = some d := by
      rw [isPhrase, isWord]
      rfl
    have notRead := read?_eq_none_of_head head (Text.isDigit_of_isLower small)
    have space : ' ' ∈ phraseOf expression := by simp [isPhrase]
    have noStamp : (phraseOf expression).head? ≠ some '@' := by
      rw [head]
      rintro ⟨⟩
      exact absurd small (by decide)
    rw [resolveMoment_eq_relative space (by decide) noStamp notRead]
    exact relative_of_error failed

/-- A phrase fails as not understood, or it overshoots. -/
theorem resolveMoment_fails_iff (expression : Option String) (now : Moment) (e : MomentError) :
    resolveMoment expression now = .error e ∧ e ≠ .notUnderstood (expression.getD "") ↔
      Overshoots now (phraseOf expression) e := by
  constructor
  · rintro ⟨failed, other⟩
    rcases resolveMoment_cases expression now with
      ⟨m, named⟩ | notUnderstood | ⟨keyword, isWord, isMoment⟩ | apart
    · cases named.symm.trans failed
    · cases notUnderstood.symm.trans failed
      exact absurd rfl other
    · obtain ⟨outside, rfl⟩ := Keyword.moment_eq_error_iff.mp (isMoment.symm.trans failed)
      exact .keyword (.inl isWord) outside
    · exact overshoots_of_relative (tight_phraseOf expression) (apart.symm.trans failed) other
  · intro overshoots
    refine ⟨?_, overshoots.ne_notUnderstood _⟩
    cases overshoots with
    | keyword begins outside => exact resolveMoment_of_outside begins outside
    | offsets isText starts cut readable follows stuck =>
      rw [resolveMoment_of_starts isText starts, cut]
      exact applyAll_eq_error_iff.mpr ⟨_, _, _, _, rfl, readable, follows, stuck⟩

/-- Not every failure says that the phrase is not understood. -/
theorem not_fails_as_notUnderstood : ¬ ∀ (expression : Option String) (now : Moment),
    (∃ m, resolveMoment expression now = .ok m) ∨
      resolveMoment expression now = .error (.notUnderstood (expression.getD "")) := by
  intro claimed
  let now : Moment := ⟨⟨2024, 1, 31, by decide, by decide, by decide⟩, .midnight, none⟩
  have overshot : resolveMoment (some "9999 years") now = .error (.yearOutOfRange 12023) := by
    decide +kernel
  rcases claimed (some "9999 years") now with ⟨m, named⟩ | notUnderstood
  · cases named.symm.trans overshot
  · cases notUnderstood.symm.trans overshot

end PromptTree.Calendar.Expression
