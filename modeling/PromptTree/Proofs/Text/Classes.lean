import PromptTree.Proofs.Text.Number
import PromptTree.Text.Digit
import PromptTree.Text.Letter
import PromptTree.Text.Word

/-!
How the classes of characters lie to each other. All of them are given by ranges of code points, and
whether two lists of ranges meet, or one lies in the other, is computed. Main statements: digits, white
space and capital letters exclude each other, digits belong to words and white space does not, and
lowering keeps a text without capitals and the ends of a trimmed one.
-/

namespace PromptTree.Text

/-! ### Ranges -/

/-- Every range of the first list lies in one of the second. -/
def rangesWithin (inner outer : List (Nat × Nat)) : Bool :=
  inner.all fun r => outer.any fun s => Nat.ble s.1 r.1 && Nat.ble r.2 s.2

def rangesApart (left right : List (Nat × Nat)) : Bool :=
  left.all fun r => right.all fun s => Nat.blt r.2 s.1 || Nat.blt s.2 r.1

variable {c : Char}

/-- A class that all characters of a text are in is computed along the text. -/
theorem forall_mem_of_all {p : Char → Prop} [DecidablePred p] {cs : List Char}
    (all : cs.all (fun c => decide (p c)) = true) : ∀ c ∈ cs, p c := by
  simpa using all

/-- What holds of the first characters there are is computed one by one. -/
@[elab_as_elim]
theorem of_code_lt {b : Nat} {P : Char → Prop} (small : c.toNat < b)
    (codes : ∀ code < b, P (Char.ofNat code)) : P c := by
  have atCode := codes c.toNat small
  rwa [Char.ofNat_toNat] at atCode

theorem inRanges_of_within {inner outer : List (Nat × Nat)} (within : rangesWithin inner outer = true)
    (isIn : inRanges inner c = true) : inRanges outer c = true := by
  simp only [rangesWithin, List.all_eq_true, List.any_eq_true, Bool.and_eq_true, Nat.ble_eq] at within
  rw [inRanges_eq_true_iff] at *
  obtain ⟨r, isRange, first, last⟩ := isIn
  obtain ⟨s, isOuter, before, behind⟩ := within r isRange
  exact ⟨s, isOuter, Nat.le_trans before first, Nat.le_trans last behind⟩

theorem not_inRanges_of_apart {left right : List (Nat × Nat)} (apart : rangesApart left right = true)
    (isIn : inRanges left c = true) : inRanges right c = false := by
  simp only [rangesApart, List.all_eq_true, Bool.or_eq_true, Nat.blt_eq] at apart
  rw [inRanges_eq_true_iff] at isIn
  obtain ⟨r, isLeft, first, last⟩ := isIn
  rw [Bool.eq_false_iff, Ne, inRanges_eq_true_iff]
  rintro ⟨s, isRight, notBefore, notBehind⟩
  have := apart r isLeft s isRight
  omega

/-! ### Digits and white space -/

def digitRanges : List (Nat × Nat) :=
  digitZeros.map fun z => (z, z + 9)

theorem isDigit_eq_inRanges (c : Char) : isDigit c = inRanges digitRanges c := by
  rw [Bool.eq_iff_iff]
  unfold isDigit digitValue? digitRanges inRanges
  rw [Option.isSome_map, List.find?_isSome, List.any_map, List.any_eq_true]
  simp [Nat.lt_succ_iff]

theorem isBlank_of_isDigit (digit : isDigit c = true) : isBlank c = false := by
  rw [isDigit_eq_inRanges] at digit
  exact not_inRanges_of_apart (by decide +kernel) digit

theorem isDigit_of_isBlank (blank : isBlank c = true) : isDigit c = false := by
  rw [isDigit_eq_inRanges]
  exact not_inRanges_of_apart (by decide +kernel) blank

theorem isWord_of_isDigit (digit : isDigit c = true) : isWord c = true := by
  rw [isDigit_eq_inRanges] at digit
  exact inRanges_of_within (by decide +kernel) digit

theorem isWord_of_isBlank (blank : isBlank c = true) : isWord c = false :=
  not_inRanges_of_apart (by decide +kernel) blank

theorem isDigit_of_ascii (digit : c.isDigit = true) : isDigit c = true := by
  rw [isDigit_eq_inRanges, inRanges_eq_true_iff]
  refine ⟨(0x30, 0x39), by decide, ?_⟩
  simpa [Char.isDigit, UInt32.le_iff_toNat_le] using digit

/-! ### Small letters -/

/-- The code points of the small letters of the ASCII alphabet. -/
def smallRanges : List (Nat × Nat) :=
  [(0x61, 0x7A)]

theorem isLower_eq_inRanges (c : Char) : c.isLower = inRanges smallRanges c := by
  rw [Bool.eq_iff_iff]
  change (decide (c.val ≥ 97) && decide (c.val ≤ 122)) = true ↔ _
  simp [inRanges, smallRanges, UInt32.le_iff_toNat_le]

theorem isBlank_of_isLower (small : c.isLower = true) : isBlank c = false := by
  rw [isLower_eq_inRanges] at small
  exact not_inRanges_of_apart (by decide +kernel) small

theorem isDigit_of_isLower (small : c.isLower = true) : isDigit c = false := by
  rw [isLower_eq_inRanges] at small
  rw [isDigit_eq_inRanges]
  exact not_inRanges_of_apart (by decide +kernel) small

theorem isWord_of_isLower (small : c.isLower = true) : isWord c = true := by
  rw [isLower_eq_inRanges] at small
  exact inRanges_of_within (by decide +kernel) small

/-! ### Lower case -/

/-- The code points of the letters that lowering changes, and of some between them. -/
def capitalRanges : List (Nat × Nat) :=
  (0x130, 0x130) :: lowerRuns.map fun run => (run.first, run.last)

/-- The code points that lowering leads to, and some between them. -/
def loweredRanges : List (Nat × Nat) :=
  lowerRuns.map fun run => ((run.first + run.shift).toNat, (run.last + run.shift).toNat)

/-- The character is no capital. -/
def IsLow (c : Char) : Prop :=
  inRanges capitalRanges c = false

instance (c : Char) : Decidable (IsLow c) :=
  inferInstanceAs (Decidable (_ = false))

theorem isLow_of_isDigit (digit : isDigit c = true) : IsLow c := by
  rw [isDigit_eq_inRanges] at digit
  exact not_inRanges_of_apart (by decide +kernel) digit

theorem isLow_of_isBlank (blank : isBlank c = true) : IsLow c :=
  not_inRanges_of_apart (by decide +kernel) blank

theorem isLow_of_isLower (small : c.isLower = true) : IsLow c := by
  rw [isLower_eq_inRanges] at small
  exact not_inRanges_of_apart (by decide +kernel) small

theorem toLower_eq_self (notCapital : ¬ (0x41 ≤ c.toNat ∧ c.toNat ≤ 0x5A)) : c.toLower = c := by
  unfold Char.toLower
  rw [dif_neg]
  rintro ⟨first, last⟩
  exact notCapital ⟨UInt32.le_iff_toNat_le.mp first, UInt32.le_iff_toNat_le.mp last⟩

theorem lowerLetter_of_isLow (low : IsLow c) : lowerLetter c = c := by
  have outside : ∀ run ∈ lowerRuns, ¬ (run.first ≤ c.toNat ∧ c.toNat ≤ run.last) := by
    rw [IsLow, Bool.eq_false_iff, Ne, inRanges_eq_true_iff] at low
    intro run isRun isIn
    exact low ⟨_, List.mem_cons_of_mem _ (List.mem_map_of_mem isRun), isIn⟩
  unfold lowerLetter
  split
  · exact toLower_eq_self (outside ⟨0x41, 0x5A, 1, 32⟩ List.mem_cons_self)
  · unfold shifted
    rw [List.find?_eq_none.mpr]
    intro run isRun
    have notIn := outside run isRun
    simp only [CaseRun.covers, Bool.and_eq_true, decide_eq_true_eq]
    exact fun covered => notIn covered.1

/-- What lowering makes of one letter: mostly another letter, but a dot may be split off, and a sigma has
a form for the end of a word. -/
inductive Lowers (c : Char) : List Char → Prop where
  | letter : Lowers c [lowerLetter c]
  | dotted : c.toNat = 0x130 → Lowers c ['i', Char.ofNat 0x307]
  | sigma : c.toNat = 0x3A3 → Lowers c [Char.ofNat 0x3C3]
  | finalSigma : c.toNat = 0x3A3 → Lowers c [Char.ofNat 0x3C2]

theorem exists_lowers (before rest : List Char) (c : Char) : ∃ low, Lowers c low ∧
    lowerCharsAfter before (c :: rest) = low ++ lowerCharsAfter (c :: before) rest := by
  rw [lowerCharsAfter]
  split
  · next isDotted => exact ⟨_, .dotted (by simpa using isDotted), rfl⟩
  · split
    · next isSigma =>
      split
      · exact ⟨_, .finalSigma (by simpa using isSigma), rfl⟩
      · exact ⟨_, .sigma (by simpa using isSigma), rfl⟩
    · exact ⟨_, .letter, rfl⟩

theorem Lowers.of_isLow {low : List Char} (lowers : Lowers c low) (isLow : IsLow c) : low = [c] := by
  cases lowers with
  | letter => rw [lowerLetter_of_isLow isLow]
  | dotted special | sigma special | finalSigma special =>
    rw [IsLow, ← Char.ofNat_toNat c, special] at isLow
    exact absurd isLow (by decide)

theorem lowerCharsAfter_of_isLow {cs : List Char} (low : ∀ c ∈ cs, IsLow c) (before : List Char) :
    lowerCharsAfter before cs = cs := by
  induction cs generalizing before with
  | nil => rfl
  | cons c cs inductionHypothesis =>
    rw [List.forall_mem_cons] at low
    obtain ⟨lowered, lowers, whole⟩ := exists_lowers before cs c
    rw [whole, lowers.of_isLow low.1, inductionHypothesis low.2]
    rfl

/-- A number that is no code point stands for the character zero. -/
theorem toNat_ofNat_or (code : Nat) : (Char.ofNat code).toNat = code ∨ Char.ofNat code = '\x00' := by
  by_cases valid : code.isValidChar
  · have isChar : Char.ofNat code = Char.ofNatAux code valid := dif_pos valid
    exact .inl (isChar ▸ rfl)
  · exact .inr (dif_neg valid)

/-- A character from which lowering leads to another leads to one of the lowered ranges. -/
theorem isBlank_lowerLetter (notBlank : isBlank c = false) : isBlank (lowerLetter c) = false := by
  unfold lowerLetter
  split
  · next ascii =>
    have kept : ∀ code < 128, isBlank (Char.ofNat code) = false →
        isBlank (Char.ofNat code).toLower = false := by decide +kernel
    have notLowered := kept c.toNat ascii
    rw [Char.ofNat_toNat] at notLowered
    exact notLowered notBlank
  · unfold shifted
    split
    · next run found =>
      have isRun := List.mem_of_find?_eq_some found
      have covered := List.find?_some found
      simp only [CaseRun.covers, Bool.and_eq_true, decide_eq_true_eq] at covered
      rcases toNat_ofNat_or (c.toNat + run.shift).toNat with isCode | isZero
      · have isIn : inRanges loweredRanges (Char.ofNat (c.toNat + run.shift).toNat) = true := by
          rw [inRanges_eq_true_iff]
          refine ⟨_, List.mem_map_of_mem isRun, ?_⟩
          rw [isCode]
          dsimp only
          omega
        exact not_inRanges_of_apart (by decide +kernel) isIn
      · rw [isZero]
        decide
    · exact notBlank

theorem Lowers.isBlank {low : List Char} (lowers : Lowers c low) (notBlank : isBlank c = false) :
    ∀ d ∈ low, isBlank d = false := by
  cases lowers with
  | letter => simpa using isBlank_lowerLetter notBlank
  | dotted | sigma | finalSigma => exact forall_mem_of_all (by decide)

theorem Lowers.ne_nil {low : List Char} (lowers : Lowers c low) : low ≠ [] := by
  cases lowers <;> simp

theorem exists_lowerCharsAfter_append (before : List Char) (cs rest : List Char) :
    ∃ low, lowerCharsAfter before (cs ++ rest) = low ++ lowerCharsAfter (cs.reverse ++ before) rest := by
  induction cs generalizing before with
  | nil => exact ⟨[], rfl⟩
  | cons c cs inductionHypothesis =>
    obtain ⟨first, _, whole⟩ := exists_lowers before (cs ++ rest) c
    obtain ⟨later, isLater⟩ := inductionHypothesis (c :: before)
    refine ⟨first ++ later, ?_⟩
    rw [List.cons_append, whole, isLater, List.append_assoc, List.reverse_cons, List.append_assoc]
    rfl

theorem exists_lowers_head {cs : List Char} (first : cs.head? = some c) (before : List Char) :
    ∃ low, Lowers c low ∧ (lowerCharsAfter before cs).head? = low.head? := by
  obtain ⟨rest, rfl⟩ := List.head?_eq_some_iff.mp first
  obtain ⟨low, lowers, whole⟩ := exists_lowers before rest c
  refine ⟨low, lowers, ?_⟩
  rw [whole, List.head?_append, Option.or_of_isSome]
  exact List.isSome_head?.mpr lowers.ne_nil

theorem exists_lowers_getLast {cs : List Char} (last : cs.getLast? = some c) (before : List Char) :
    ∃ low, Lowers c low ∧ (lowerCharsAfter before cs).getLast? = low.getLast? := by
  obtain ⟨lead, rfl⟩ := List.getLast?_eq_some_iff.mp last
  obtain ⟨rest, whole⟩ := exists_lowerCharsAfter_append before lead [c]
  obtain ⟨low, lowers, isLow⟩ := exists_lowers (lead.reverse ++ before) [] c
  refine ⟨low, lowers, ?_⟩
  rw [whole, isLow, lowerCharsAfter, List.append_nil, List.getLast?_append, Option.or_of_isSome]
  exact List.getLast?_isSome.mpr lowers.ne_nil

/-! ### Runs of a class -/

variable {p : Char → Bool} {cs rest : List Char}

theorem dropWhile_of_stop (stop : ∀ c, cs.head? = some c → p c = false) : cs.dropWhile p = cs := by
  cases cs with
  | nil => rfl
  | cons c cs => rw [List.dropWhile_cons, stop c rfl, if_neg Bool.false_ne_true]

theorem dropWhile_run (run : ∀ c ∈ cs, p c = true) (stop : ∀ c, rest.head? = some c → p c = false) :
    (cs ++ rest).dropWhile p = rest := by
  rw [List.dropWhile_append_of_pos run, dropWhile_of_stop stop]

theorem takeWhile_run (run : ∀ c ∈ cs, p c = true) (stop : ∀ c, rest.head? = some c → p c = false) :
    (cs ++ rest).takeWhile p = cs := by
  rw [List.takeWhile_append_of_pos run]
  cases rest with
  | nil => exact List.append_nil cs
  | cons c rest => rw [List.takeWhile_cons, stop c rfl, if_neg Bool.false_ne_true, List.append_nil]

theorem stop_of_head?_dropWhile {c : Char} (first : (cs.dropWhile p).head? = some c) : p c = false := by
  have atHead := List.head?_dropWhile_not p cs
  rw [first] at atHead
  simpa using atHead

theorem run_of_mem_takeWhile {c : Char} (isIn : c ∈ cs.takeWhile p) : p c = true :=
  List.all_eq_true.mp List.all_takeWhile c isIn

theorem stop_append (none : ∀ c ∈ cs, p c = false) (stop : ∀ c, rest.head? = some c → p c = false) :
    ∀ c, (cs ++ rest).head? = some c → p c = false := by
  intro c first
  cases cs with
  | nil => exact stop c first
  | cons d cs =>
    cases first
    exact none c List.mem_cons_self

theorem stop_append_of_ne_nil (none : ∀ c ∈ cs, p c = false) (some : cs ≠ []) (rest : List Char) :
    ∀ c, (cs ++ rest).head? = Option.some c → p c = false := by
  obtain ⟨d, ds, rfl⟩ := List.exists_cons_of_ne_nil some
  rintro c ⟨⟩
  exact none d List.mem_cons_self

/-! ### The ends of a text -/

/-- No blank stands at either end. -/
structure Tight (cs : List Char) : Prop where
  first : ∀ c, cs.head? = some c → isBlank c = false
  last : ∀ c, cs.getLast? = some c → isBlank c = false

/-- A text is what it is when it is trimmed, between blanks. -/
theorem exists_blanks_trimWhile (cs : List Char) : ∃ lead trail,
    (∀ c ∈ lead, isBlank c = true) ∧ (∀ c ∈ trail, isBlank c = true) ∧
      cs = lead ++ trimWhile isBlank cs ++ trail ∧ Tight (trimWhile isBlank cs) := by
  have lead := List.takeWhile_append_dropWhile (p := isBlank) (l := cs)
  have trail := List.takeWhile_append_dropWhile (p := isBlank) (l := (cs.dropWhile isBlank).reverse)
  have whole : trimWhile isBlank cs ++ ((cs.dropWhile isBlank).reverse.takeWhile isBlank).reverse =
      cs.dropWhile isBlank := by
    rw [trimWhile, dropEndWhile, ← List.reverse_append, trail, List.reverse_reverse]
  refine ⟨cs.takeWhile isBlank, ((cs.dropWhile isBlank).reverse.takeWhile isBlank).reverse,
    ?_, ?_, ?_, ?_, ?_⟩
  · exact fun c isIn => run_of_mem_takeWhile isIn
  · exact fun c isIn => run_of_mem_takeWhile (List.mem_reverse.mp isIn)
  · rw [List.append_assoc, whole, lead]
  · intro c first
    refine stop_of_head?_dropWhile (?_ : (cs.dropWhile isBlank).head? = some c)
    rw [← whole, List.head?_append, first]
    rfl
  · intro c last
    rw [trimWhile, dropEndWhile, List.getLast?_reverse] at last
    exact stop_of_head?_dropWhile last

theorem trimWhile_between {lead cs trail : List Char} (before : ∀ c ∈ lead, isBlank c = true)
    (tight : Tight cs) (notEmpty : cs ≠ []) (behind : ∀ c ∈ trail, isBlank c = true) :
    trimWhile isBlank (lead ++ (cs ++ trail)) = cs := by
  obtain ⟨c, rest, rfl⟩ := List.exists_cons_of_ne_nil notEmpty
  rw [trimWhile, dropEndWhile, dropWhile_run before, List.reverse_append, dropWhile_run,
    List.reverse_reverse]
  · simpa using behind
  · intro d isLast
    rw [List.head?_reverse] at isLast
    exact tight.last d isLast
  · intro d isFirst
    exact tight.first d isFirst

theorem Tight.lowerCharsAfter {cs : List Char} (tight : Tight cs) (before : List Char) :
    Tight (lowerCharsAfter before cs) := by
  constructor
  · intro d isFirst
    cases first : cs.head? with
    | none =>
      rw [List.head?_eq_none_iff.mp first] at isFirst
      cases isFirst
    | some c =>
      obtain ⟨low, lowers, same⟩ := exists_lowers_head first before
      rw [same] at isFirst
      exact lowers.isBlank (tight.first c first) d (List.mem_of_head? isFirst)
  · intro d isLast
    cases last : cs.getLast? with
    | none =>
      rw [List.getLast?_eq_none_iff.mp last] at isLast
      cases isLast
    | some c =>
      obtain ⟨low, lowers, same⟩ := exists_lowers_getLast last before
      rw [same] at isLast
      exact lowers.isBlank (tight.last c last) d (List.mem_of_getLast? isLast)

end PromptTree.Text
