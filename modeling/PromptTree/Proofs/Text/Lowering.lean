import PromptTree.Proofs.Text.Classes

/-!
Lower case as a projection. Lowering leads to letters that it leaves as they are, so a text in lower
case stays the same (`lower_lower`); and it leads only to letters, so every other character of a text in
lower case was in the text before (`mem_of_mem_lowerCharsAfter`). Both are computed from the runs of
code points that are moved.
-/

namespace PromptTree.Text

/-! ### Runs -/

def CaseRun.image (run : CaseRun) : CaseRun where
  first := (run.first + run.shift).toNat
  last := (run.last + run.shift).toNat
  step := if run.first = run.last then 2 else run.step
  shift := 0

/-- The runs have no code point in common: they lie apart, or they take turns. -/
def CaseRun.apart (run other : CaseRun) : Bool :=
  Nat.blt run.last other.first || Nat.blt other.last run.first ||
    (Nat.beq run.step 2 && Nat.beq other.step 2 && !Nat.beq (run.first % 2) (other.first % 2))

/-- The capital with a dot, which is not moved but taken apart, with the letters that are moved. -/
def capitalRuns : List CaseRun :=
  ⟨0x130, 0x130, 1, 0⟩ :: lowerRuns

theorem lowerRuns_inBounds : ∀ run ∈ lowerRuns, 0 ≤ run.first + run.shift := by
  decide +kernel

/-- No run leads to a letter of a run. -/
theorem lowerRuns_apart : ∀ run ∈ lowerRuns, ∀ other ∈ capitalRuns, run.image.apart other = true := by
  have apart : (lowerRuns.all fun run => capitalRuns.all run.image.apart) = true := by
    decide +kernel
  simpa only [List.all_eq_true] using apart

theorem covers_eq_true_iff {run : CaseRun} {code : Nat} : run.covers code = true ↔
    run.first ≤ code ∧ code ≤ run.last ∧ (code - run.first) % run.step = 0 := by
  simp [CaseRun.covers, and_assoc]

/-- What a run leads to is in no run. -/
theorem not_covers_of_moved {run other : CaseRun} (isRun : run ∈ lowerRuns)
    (isOther : other ∈ capitalRuns) {code : Nat} (covered : run.covers code = true) :
    other.covers (code + run.shift).toNat = false := by
  have inBounds := lowerRuns_inBounds run isRun
  have apart := lowerRuns_apart run isRun other isOther
  obtain ⟨first, last, onStep⟩ := covers_eq_true_iff.mp covered
  rw [Bool.eq_false_iff, Ne, covers_eq_true_iff]
  rintro ⟨otherFirst, otherLast, onOtherStep⟩
  simp only [CaseRun.apart, CaseRun.image, Bool.or_eq_true, Bool.and_eq_true, Nat.blt_eq,
    Nat.beq_eq, Bool.not_eq_true', ← Bool.not_eq_true] at apart
  rcases apart with (before | behind) | ⟨⟨alternates, alternatesToo⟩, differ⟩
  · omega
  · omega
  · rw [alternatesToo] at onOtherStep
    split at alternates
    · omega
    · rw [alternates] at onStep
      omega

/-! ### Letters -/

theorem lowerLetter_eq_shifted (c : Char) : lowerLetter c = shifted lowerRuns c := by
  unfold lowerLetter
  split
  · next isAscii => exact of_code_lt isAscii (by decide +kernel)
  · rfl

theorem lowerLetter_of_not_covered {c : Char}
    (outside : ∀ run ∈ lowerRuns, run.covers c.toNat = false) : lowerLetter c = c := by
  rw [lowerLetter_eq_shifted, shifted, List.find?_eq_none.mpr]
  intro run isRun covered
  rw [outside run isRun] at covered
  cases covered

/-- Lowering moves the letters of a run, and no others. -/
theorem lowerLetter_cases (c : Char) :
    (∀ run ∈ lowerRuns, run.covers c.toNat = false) ∨
      ∃ run ∈ lowerRuns, run.covers c.toNat = true ∧
        lowerLetter c = Char.ofNat (c.toNat + run.shift).toNat := by
  cases found : lowerRuns.find? (·.covers c.toNat) with
  | none =>
    left
    intro run isRun
    simpa using List.find?_eq_none.mp found run isRun
  | some run =>
    refine .inr ⟨run, List.mem_of_find?_eq_some found, ?_, ?_⟩
    · exact List.find?_some (p := fun run => CaseRun.covers run c.toNat) found
    · rw [lowerLetter_eq_shifted, shifted, found]

/-- Lowering leaves the character as it is, wherever it stands. -/
structure IsLowered (c : Char) : Prop where
  notDotted : c.toNat ≠ 0x130
  notSigma : c.toNat ≠ 0x3A3
  kept : lowerLetter c = c

theorem isLowered_of_not_covered {c : Char}
    (outside : ∀ run ∈ capitalRuns, run.covers c.toNat = false) : IsLowered c where
  notDotted isDotted := by
    rw [isDotted] at outside
    exact absurd outside (by decide +kernel)
  notSigma isSigma := by
    rw [isSigma] at outside
    exact absurd outside (by decide +kernel)
  kept := lowerLetter_of_not_covered fun run isRun => outside run (List.mem_cons_of_mem _ isRun)

theorem isLowered_lowerLetter {c : Char} (notDotted : c.toNat ≠ 0x130) :
    IsLowered (lowerLetter c) := by
  apply isLowered_of_not_covered
  rcases lowerLetter_cases c with outside | ⟨run, isRun, covered, moved⟩
  · rw [lowerLetter_of_not_covered outside]
    intro run isRun
    rcases List.mem_cons.mp isRun with rfl | isRun
    · rw [Bool.eq_false_iff, Ne, covers_eq_true_iff]
      exact fun covered => notDotted (Nat.le_antisymm covered.2.1 covered.1)
    · exact outside run isRun
  · rw [moved]
    rcases toNat_ofNat_or (c.toNat + run.shift).toNat with isCode | isZero
    · rw [isCode]
      exact fun other isOther => not_covers_of_moved isRun isOther covered
    · rw [isZero]
      decide +kernel

/-! ### Texts -/

/-- What holds of the letters of a text in lower case: it holds of what a dotted capital and a sigma come
to, and of what every other character does. -/
theorem forall_mem_lowerCharsAfter {P : Char → Prop} {cs : List Char}
    (special : ∀ d ∈ ['i', Char.ofNat 0x307, Char.ofNat 0x3C2, Char.ofNat 0x3C3], P d)
    (letter : ∀ c ∈ cs, c.toNat ≠ 0x130 → P (lowerLetter c)) (before : List Char) :
    ∀ d ∈ lowerCharsAfter before cs, P d := by
  induction cs generalizing before with
  | nil => simp [lowerCharsAfter]
  | cons c cs inductionHypothesis =>
    rw [List.forall_mem_cons] at letter
    simp only [List.forall_mem_cons] at special
    obtain ⟨dot, dotMark, finalSigma, sigma, _⟩ := special
    rw [lowerCharsAfter, List.forall_mem_append]
    refine ⟨?_, inductionHypothesis letter.2 _⟩
    split
    · exact List.forall_mem_cons.mpr ⟨dot, List.forall_mem_singleton.mpr dotMark⟩
    · next notDotted =>
      split
      · rw [List.forall_mem_singleton]
        split
        · exact finalSigma
        · exact sigma
      · exact List.forall_mem_singleton.mpr (letter.1 (by simpa using notDotted))

theorem isLowered_of_mem_lowerCharsAfter (before cs : List Char) :
    ∀ d ∈ lowerCharsAfter before cs, IsLowered d := by
  apply forall_mem_lowerCharsAfter
  · intro d isSpecial
    apply isLowered_of_not_covered
    revert d
    exact forall_mem_of_all (by decide +kernel)
  · exact fun c _ notDotted => isLowered_lowerLetter notDotted

theorem lowerCharsAfter_of_isLowered {cs : List Char} (lowered : ∀ c ∈ cs, IsLowered c)
    (before : List Char) : lowerCharsAfter before cs = cs := by
  induction cs generalizing before with
  | nil => rfl
  | cons c cs inductionHypothesis =>
    rw [List.forall_mem_cons] at lowered
    obtain ⟨notDotted, notSigma, kept⟩ := lowered.1
    rw [lowerCharsAfter, if_neg (by simpa using notDotted), if_neg (by simpa using notSigma), kept,
      inductionHypothesis lowered.2]
    rfl

/-- What is in lower case stays as it is. -/
theorem lower_lower (s : String) : lower (lower s) = lower s := by
  have kept := lowerCharsAfter_of_isLowered
    (isLowered_of_mem_lowerCharsAfter [] s.toList) []
  unfold lower
  rw [String.toList_ofList, kept]

/-- The code points that lowering leads to, and some between them. -/
def letterRanges : List (Nat × Nat) :=
  (0x0, 0x0) :: (0x307, 0x307) :: (0x3C2, 0x3C2) :: loweredRanges

/-- A character in lower case that is no letter was there before. -/
theorem mem_of_mem_lowerCharsAfter {ranges : List (Nat × Nat)}
    (apart : rangesApart letterRanges ranges = true) {before cs : List Char} {d : Char}
    (isIn : d ∈ lowerCharsAfter before cs) (inRange : inRanges ranges d = true) : d ∈ cs := by
  have noLetter {d : Char} (isLetter : inRanges letterRanges d = true)
      (inRange : inRanges ranges d = true) : False := by
    rw [not_inRanges_of_apart apart isLetter] at inRange
    cases inRange
  refine forall_mem_lowerCharsAfter (P := fun d => inRanges ranges d = true → d ∈ cs) ?_ ?_ before d
    isIn inRange
  · intro d isSpecial inRange
    have isLetter : ∀ d ∈ ['i', Char.ofNat 0x307, Char.ofNat 0x3C2, Char.ofNat 0x3C3],
        inRanges letterRanges d = true :=
      forall_mem_of_all (by decide +kernel)
    exact (noLetter (isLetter d isSpecial) inRange).elim
  · intro c isChar _ inRange
    rcases lowerLetter_cases c with outside | ⟨run, isRun, covered, moved⟩
    · rwa [lowerLetter_of_not_covered outside]
    · refine (noLetter ?_ inRange).elim
      obtain ⟨first, last, _⟩ := covers_eq_true_iff.mp covered
      rw [moved, inRanges_eq_true_iff]
      rcases toNat_ofNat_or (c.toNat + run.shift).toNat with isCode | isZero
      · refine ⟨((run.first + run.shift).toNat, (run.last + run.shift).toNat), ?_, ?_⟩
        · simp only [letterRanges, List.mem_cons]
          exact .inr (.inr (.inr (List.mem_map_of_mem isRun)))
        · rw [isCode]
          dsimp only
          omega
      · exact ⟨(0x0, 0x0), List.mem_cons_self, isZero ▸ ⟨Nat.le_refl 0, Nat.le_refl 0⟩⟩

end PromptTree.Text
