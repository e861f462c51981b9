import Mathlib.Data.List.TakeWhile
import PromptTree.Calendar.Expression
import PromptTree.Proofs.Text.Classes

/-!
Offsets as they are written. White space may stand around a sign and around an amount, the sign may be
left out, and an offset is kept apart from the one before it by white space or its sign. A text is first
looked at as a whole and then searched for its offsets. Main statement: it is accepted if and only if it is
written in this way, and what the search finds are the offsets that are written, each once and in order
(`shifts?_eq_some_iff`).
-/

namespace PromptTree.Calendar.Expression

/-! ### The parts of an offset -/

/-- White space of any length. -/
abbrev Blanks := { cs : List Char // ∀ c ∈ cs, Text.isBlank c = true }

def noBlanks : Blanks :=
  ⟨[], List.forall_mem_nil _⟩

@[simp] theorem val_noBlanks : noBlanks.1 = [] := rfl

def leadOf (cs : List Char) : Blanks :=
  ⟨cs.takeWhile Text.isBlank, fun _ isIn => Text.run_of_mem_takeWhile isIn⟩

theorem leadOf_append (cs : List Char) : (leadOf cs).1 ++ cs.dropWhile Text.isBlank = cs :=
  List.takeWhile_append_dropWhile

/-- At least one digit. -/
abbrev Amount := { cs : List Char // cs ≠ [] ∧ ∀ c ∈ cs, Text.isDigit c = true }

/-- A sign, with the white space behind it. -/
inductive Sign where
  | absent
  | plus (behind : Blanks)
  | minus (behind : Blanks)

structure Word where
  name : String
  unit : Unit
  known : (name, unit) ∈ units
  plural : Bool

structure Written where
  sign : Sign
  amount : Amount
  gap : Blanks
  word : Word

/-- An offset behind another one. -/
structure Later where
  lead : Blanks
  written : Written
  apart : lead.1 ≠ [] ∨ written.sign ≠ .absent

/-- Offsets as they are written one after the other, at least one. -/
structure Offsets where
  first : Written
  later : List Later

namespace Sign

def text : Sign → List Char
  | absent => []
  | plus behind => '+' :: behind.1
  | minus behind => '-' :: behind.1

/-- Only a minus turns the direction. -/
def backward : Sign → Bool
  | absent | plus _ => false
  | minus _ => true

theorem isLow_of_mem {sign : Sign} {c : Char} (isIn : c ∈ sign.text) : Text.IsLow c := by
  cases sign with
  | absent => cases isIn
  | plus behind | minus behind =>
    rcases List.mem_cons.mp isIn with rfl | isIn
    · decide
    · exact Text.isLow_of_isBlank (behind.2 c isIn)

end Sign

namespace Word

def text (word : Word) : List Char :=
  (if word.plural then word.name ++ "s" else word.name).toList

theorem unit?_text (word : Word) : unit? (.ofList word.text) = some word.unit := by
  have singular : ∀ entry ∈ units, unit? entry.1 = some entry.2 := by decide
  have plural : ∀ entry ∈ units, unit? (entry.1 ++ "s") = some entry.2 := by decide
  unfold text
  rw [String.ofList_toList]
  split
  · exact plural _ word.known
  · exact singular _ word.known

theorem exists_text_eq {word : String} {unit : Unit} (found : unit? word = some unit) :
    ∃ w : Word, w.text = word.toList ∧ w.unit = unit := by
  unfold unit? at found
  split at found
  · next singular =>
    cases found
    obtain ⟨before, after, cut, _⟩ := List.lookup_eq_some_iff.mp singular
    have known : (word, unit) ∈ units := by
      rw [cut]
      exact List.mem_append_right before List.mem_cons_self
    exact ⟨⟨word, unit, known, false⟩, rfl, rfl⟩
  · obtain ⟨⟨name, named⟩, known, isPlural⟩ := List.exists_of_findSome?_eq_some found
    dsimp only at isPlural
    split at isPlural
    · next same =>
      cases isPlural
      exact ⟨⟨name, unit, known, true⟩, congrArg String.toList (eq_of_beq same), rfl⟩
    · cases isPlural

theorem isLower_of_mem {word : Word} {c : Char} (isIn : c ∈ word.text) : c.isLower = true := by
  have small : ∀ entry ∈ units, entry.1.toList.all (fun c => decide (c.isLower = true)) = true := by decide
  have plural : ∀ c ∈ "s".toList, c.isLower = true := Text.forall_mem_of_all (by decide)
  unfold text at isIn
  split at isIn
  · rw [String.toList_append, List.mem_append] at isIn
    rcases isIn with isIn | isIn
    · exact Text.forall_mem_of_all (small _ word.known) c isIn
    · exact plural c isIn
  · exact Text.forall_mem_of_all (small _ word.known) c isIn

/-- The last letter ends neither the word `ago` nor a moment in the international notation. -/
theorem getLast?_text (word : Word) :
    ∃ c, word.text.getLast? = some c ∧ c.isLower = true ∧ c ≠ 'o' ∧ c ≠ 'z' := by
  have lasts : ∀ entry ∈ units,
      entry.1.toList.getLast?.any (fun c => c.isLower && c != 'o' && c != 'z') = true := by decide
  unfold text
  split
  · exact ⟨'s', by simp [String.toList_append], by decide⟩
  · simpa [Option.any_eq_true, and_assoc] using lasts _ word.known

theorem text_ne_nil (word : Word) : word.text ≠ [] := by
  have some : ∀ entry ∈ units, entry.1.toList ≠ [] := by decide
  unfold text
  split
  · simp
  · exact some _ word.known

end Word

namespace Written

def text (written : Written) : List Char :=
  written.sign.text ++ (written.amount.1 ++ (written.gap.1 ++ written.word.text))

def shift (written : Written) : Shift where
  backward := written.sign.backward
  digits := written.amount.1.filterMap Text.digitValue?
  unit := written.word.unit

/-- An offset begins with a sign or a digit. -/
theorem head_text (written : Written) :
    ∃ c rest, written.text = c :: rest ∧ (c = '+' ∨ c = '-' ∨ Text.isDigit c = true) := by
  obtain ⟨sign, ⟨amount, some, digits⟩, gap, word⟩ := written
  cases sign with
  | absent =>
    obtain ⟨d, ds, rfl⟩ := List.exists_cons_of_ne_nil some
    exact ⟨d, _, rfl, .inr (.inr (digits d List.mem_cons_self))⟩
  | plus behind => exact ⟨'+', _, rfl, .inl rfl⟩
  | minus behind => exact ⟨'-', _, rfl, .inr (.inl rfl)⟩

theorem length_text_pos (written : Written) : 0 < written.text.length := by
  obtain ⟨c, rest, isText, _⟩ := written.head_text
  rw [isText]
  exact Nat.succ_pos _

theorem isDigit_of_head?_text {written : Written} {rest : List Char} {c : Char}
    (signed : written.sign ≠ .absent) (first : (written.text ++ rest).head? = some c) :
    Text.isDigit c = false := by
  obtain ⟨sign, amount, gap, word⟩ := written
  cases sign with
  | absent => exact absurd rfl signed
  | plus behind | minus behind =>
    cases first
    decide

theorem isBlank_of_head?_text {written : Written} {rest : List Char} {c : Char}
    (first : (written.text ++ rest).head? = some c) : Text.isBlank c = false := by
  obtain ⟨d, later, isText, class_⟩ := written.head_text
  rw [isText] at first
  cases first
  rcases class_ with rfl | rfl | digit
  · decide
  · decide
  · exact Text.isBlank_of_isDigit digit

theorem getLast?_text (written : Written) : written.text.getLast? = written.word.text.getLast? := by
  obtain ⟨c, last, _⟩ := written.word.getLast?_text
  simp [text, List.getLast?_append, last]

theorem isLow_of_mem {written : Written} {c : Char} (isIn : c ∈ written.text) : Text.IsLow c := by
  simp only [text, List.mem_append] at isIn
  rcases isIn with isIn | isIn | isIn | isIn
  · exact Sign.isLow_of_mem isIn
  · exact Text.isLow_of_isDigit (written.amount.2.2 c isIn)
  · exact Text.isLow_of_isBlank (written.gap.2 c isIn)
  · exact Text.isLow_of_isLower (Word.isLower_of_mem isIn)

end Written

/-! ### Reading one offset -/

theorem digits_ne_nil {amount : List Char} (some : amount ≠ [])
    (digits : ∀ c ∈ amount, Text.isDigit c = true) : amount.filterMap Text.digitValue? ≠ [] := by
  obtain ⟨d, ds, rfl⟩ := List.exists_cons_of_ne_nil some
  obtain ⟨value, isValue⟩ := Option.isSome_iff_exists.mp (digits d List.mem_cons_self)
  rw [List.filterMap_cons, isValue]
  exact List.cons_ne_nil _ _

theorem measure?_eq_some_iff {backward : Bool} {cs rest : List Char} {shift : Shift} :
    measure? backward cs = some (shift, rest) ↔
      ∃ (behind : Blanks) (amount : Amount) (gap : Blanks) (word : Word),
        cs = behind.1 ++ (amount.1 ++ (gap.1 ++ (word.text ++ rest))) ∧
        (∀ c, rest.head? = some c → Text.isWord c = false) ∧
        shift = ⟨backward, amount.1.filterMap Text.digitValue?, word.unit⟩ := by
  constructor
  · intro found
    unfold measure? at found
    dsimp only at found
    split at found
    · cases found
    · next some =>
      obtain ⟨unit, isUnit, ended⟩ := Option.bind_eq_some_iff.mp found
      clear found
      obtain ⟨word, isWord, rfl⟩ := Word.exists_text_eq isUnit
      cases ended
      rw [String.toList_ofList] at isWord
      have isDigits : ∀ c ∈ (cs.dropWhile Text.isBlank).takeWhile Text.isDigit, Text.isDigit c = true :=
        fun c isIn => Text.run_of_mem_takeWhile isIn
      refine ⟨leadOf cs, ⟨_, ?_, isDigits⟩,
        leadOf ((cs.dropWhile Text.isBlank).dropWhile Text.isDigit), word, ?_,
        fun c first => Text.stop_of_head?_dropWhile first, rfl⟩
      · intro none
        simp [none] at some
      · rw [isWord, List.takeWhile_append_dropWhile, leadOf_append, List.takeWhile_append_dropWhile,
          leadOf_append]
  · rintro ⟨behind, ⟨amount, some, digits⟩, gap, word, rfl, apart, rfl⟩
    have notWord := Text.stop_append_of_ne_nil (fun c isIn => Text.isBlank_of_isLower
      (word.isLower_of_mem isIn)) word.text_ne_nil rest
    have notDigit := Text.stop_append (fun c isIn => Text.isDigit_of_isBlank (gap.2 c isIn))
      (Text.stop_append_of_ne_nil (fun c isIn => Text.isDigit_of_isLower (word.isLower_of_mem isIn))
        word.text_ne_nil rest)
    have notBlank := Text.stop_append_of_ne_nil (fun c isIn => Text.isBlank_of_isDigit (digits c isIn))
      some (gap.1 ++ (word.text ++ rest))
    unfold measure?
    dsimp only
    rw [Text.dropWhile_run behind.2 notBlank, Text.takeWhile_run digits notDigit,
      Text.dropWhile_run digits notDigit, Text.dropWhile_run gap.2 notWord,
      Text.takeWhile_run (fun c isIn => Text.isWord_of_isLower (word.isLower_of_mem isIn)) apart,
      Text.dropWhile_run (fun c isIn => Text.isWord_of_isLower (word.isLower_of_mem isIn)) apart,
      word.unit?_text]
    simp [digits_ne_nil some digits]

theorem direction_cases (cs : List Char) :
    (∃ rest, cs = '-' :: rest ∧ direction cs = (true, rest)) ∨
      (∃ rest, cs = '+' :: rest ∧ direction cs = (false, rest)) ∨ direction cs = (false, cs) := by
  unfold direction
  split
  · exact .inl ⟨_, rfl, rfl⟩
  · exact .inr (.inl ⟨_, rfl, rfl⟩)
  · exact .inr (.inr rfl)

theorem direction_of_head {cs : List Char} (noSign : ∀ c, cs.head? = some c → c ≠ '-' ∧ c ≠ '+') :
    direction cs = (false, cs) := by
  rcases direction_cases cs with ⟨rest, rfl, _⟩ | ⟨rest, rfl, _⟩ | none
  · exact absurd rfl (noSign '-' rfl).1
  · exact absurd rfl (noSign '+' rfl).2
  · exact none

theorem ne_sign {c : Char} (other : Text.isBlank c = true ∨ Text.isDigit c = true) : c ≠ '-' ∧ c ≠ '+' := by
  constructor
  all_goals
    rintro rfl
    revert other
    decide

theorem measure?_eq_none {backward : Bool} {cs : List Char}
    (noDigit : ∀ c, (cs.dropWhile Text.isBlank).head? = some c → Text.isDigit c = false) :
    measure? backward cs = none := by
  have none : (cs.dropWhile Text.isBlank).takeWhile Text.isDigit = [] :=
    Text.takeWhile_run (List.forall_mem_nil _) noDigit
  unfold measure?
  dsimp only
  rw [none]
  rfl

/-- An offset is found where it begins; without a sign, it begins with the blanks in front of its amount. -/
theorem shift?_text (lead : Blanks) (written : Written) {rest : List Char}
    (starts : lead.1 = [] ∨ written.sign = .absent)
    (apart : ∀ c, rest.head? = some c → Text.isWord c = false) :
    shift? (lead.1 ++ (written.text ++ rest)) = some (written.shift, rest) := by
  obtain ⟨sign, amount, gap, word⟩ := written
  apply measure?_eq_some_iff.mpr
  cases sign with
  | absent =>
    have noSign : ∀ c, (lead.1 ++ (amount.1 ++ (gap.1 ++ (word.text ++ rest)))).head? = some c →
        c ≠ '-' ∧ c ≠ '+' := by
      intro c first
      apply ne_sign
      obtain ⟨_ | ⟨b, bs⟩, blank⟩ := lead
      · obtain ⟨_ | ⟨d, ds⟩, some, digits⟩ := amount
        · exact absurd rfl some
        · cases first
          exact .inr (digits c List.mem_cons_self)
      · cases first
        exact .inl (blank c List.mem_cons_self)
    refine ⟨lead, amount, gap, word, ?_, apart, ?_⟩
    · simp [Written.text, Sign.text, direction_of_head noSign]
    · simp [Written.text, Sign.text, direction_of_head noSign, Written.shift, Sign.backward]
  | plus behind | minus behind =>
    have none := starts.resolve_right Sign.noConfusion
    refine ⟨behind, amount, gap, word, ?_, apart, ?_⟩
    · simp [none, Written.text, Sign.text, direction]
    · simp [none, Written.text, Sign.text, direction, Written.shift, Sign.backward]

theorem shift?_dropWhile_eq_some_iff {cs rest : List Char} {shift : Shift} :
    shift? (cs.dropWhile Text.isBlank) = some (shift, rest) ↔ ∃ (lead : Blanks) (written : Written),
      cs = lead.1 ++ (written.text ++ rest) ∧ (∀ c, rest.head? = some c → Text.isWord c = false) ∧
        shift = written.shift := by
  constructor
  · intro found
    obtain ⟨behind, amount, gap, word, isBehind, apart, isShift⟩ := measure?_eq_some_iff.mp found
    have whole := leadOf_append cs
    rcases direction_cases (cs.dropWhile Text.isBlank) with
      ⟨signed, isMinus, direct⟩ | ⟨signed, isPlus, direct⟩ | direct
    · rw [direct] at isBehind isShift
      refine ⟨leadOf cs, ⟨.minus behind, amount, gap, word⟩, whole.symm.trans ?_, apart, isShift⟩
      rw [isMinus]
      simp [Written.text, Sign.text, ← isBehind]
    · rw [direct] at isBehind isShift
      refine ⟨leadOf cs, ⟨.plus behind, amount, gap, word⟩, whole.symm.trans ?_, apart, isShift⟩
      rw [isPlus]
      simp [Written.text, Sign.text, ← isBehind]
    · rw [direct] at isBehind isShift
      dsimp only at isBehind
      have none : behind.1 = [] := by
        cases isLead : behind.1 with
        | nil => rfl
        | cons c rest =>
          have blank := behind.2 c (isLead ▸ List.mem_cons_self)
          have first : (cs.dropWhile Text.isBlank).head? = some c := by
            rw [isBehind, isLead]
            rfl
          rw [Text.stop_of_head?_dropWhile first] at blank
          cases blank
      refine ⟨leadOf cs, ⟨.absent, amount, gap, word⟩, whole.symm.trans ?_, apart, isShift⟩
      rw [isBehind, none]
      simp [Written.text, Sign.text]
  · rintro ⟨lead, written, rfl, apart, rfl⟩
    rw [Text.dropWhile_run lead.2 fun c first => Written.isBlank_of_head?_text first]
    exact shift?_text noBlanks written (.inl rfl) apart

/-- No offset begins at a blank in front of a sign, or where only blanks follow. -/
theorem shift?_eq_none {cs : List Char} (blank : ∀ c, cs.head? = some c → Text.isBlank c = true)
    (noDigit : ∀ c, (cs.dropWhile Text.isBlank).head? = some c → Text.isDigit c = false) :
    shift? cs = none := by
  unfold shift?
  rw [direction_of_head fun c first => ne_sign (.inl (blank c first))]
  exact measure?_eq_none noDigit

/-! ### Reading one offset after the other -/

/-- An offset goes on from the one before it without ending its word, unless something keeps them apart. -/
theorem isWord_of_head?_iff (lead : Blanks) (written : Written) (rest : List Char) :
    (∀ c, (lead.1 ++ (written.text ++ rest)).head? = some c → Text.isWord c = false) ↔
      lead.1 ≠ [] ∨ written.sign ≠ .absent := by
  obtain ⟨_ | ⟨b, bs⟩, blank⟩ := lead
  · obtain ⟨sign, ⟨_ | ⟨d, ds⟩, some, digits⟩, gap, word⟩ := written
    · exact absurd rfl some
    · have isWord := Text.isWord_of_isDigit (digits d List.mem_cons_self)
      cases sign with
      | absent => simp [Written.text, Sign.text, isWord]
      | plus behind => simp [Written.text, Sign.text]; decide +kernel
      | minus behind => simp [Written.text, Sign.text]; decide +kernel
  · have isBlank := blank b List.mem_cons_self
    simp [Text.isWord_of_isBlank isBlank]

namespace Offsets

def text (offsets : Offsets) : List Char :=
  offsets.first.text ++ offsets.later.flatMap fun l => l.lead.1 ++ l.written.text

def shifts (offsets : Offsets) : List Shift :=
  offsets.first.shift :: offsets.later.map (·.written.shift)

theorem text_nil (first : Written) : text ⟨first, []⟩ = first.text := by
  simp [text]

theorem text_cons (first : Written) (l : Later) (later : List Later) :
    text ⟨first, l :: later⟩ = first.text ++ (l.lead.1 ++ text ⟨l.written, later⟩) := by
  simp [text]

theorem isBlank_of_head?_text {offsets : Offsets} {rest : List Char} {c : Char}
    (first : (offsets.text ++ rest).head? = some c) : Text.isBlank c = false := by
  rw [text, List.append_assoc] at first
  exact Written.isBlank_of_head?_text first

theorem getLast?_text (offsets : Offsets) :
    ∃ c, offsets.text.getLast? = some c ∧ c.isLower = true ∧ c ≠ 'o' ∧ c ≠ 'z' := by
  obtain ⟨first, later⟩ := offsets
  induction later generalizing first with
  | nil =>
    rw [text_nil, first.getLast?_text]
    exact first.word.getLast?_text
  | cons l later inductionHypothesis =>
    obtain ⟨c, last, isLast⟩ := inductionHypothesis l.written
    refine ⟨c, ?_, isLast⟩
    rw [text_cons, List.getLast?_append, List.getLast?_append, last]
    rfl

theorem isLow_of_mem {offsets : Offsets} {c : Char} (isIn : c ∈ offsets.text) : Text.IsLow c := by
  simp only [text, List.mem_append, List.mem_flatMap] at isIn
  rcases isIn with isIn | ⟨l, _, isIn | isIn⟩
  · exact Written.isLow_of_mem isIn
  · exact Text.isLow_of_isBlank (l.lead.2 c isIn)
  · exact Written.isLow_of_mem isIn

/-- The offsets behind the first one begin with something that keeps them apart. -/
theorem isWord_of_head?_later (l : Later) (later : List Later) (rest : List Char) :
    ∀ c, (l.lead.1 ++ (text ⟨l.written, later⟩ ++ rest)).head? = some c → Text.isWord c = false := by
  rw [text, List.append_assoc]
  exact (isWord_of_head?_iff l.lead l.written _).mpr l.apart

theorem isWord_of_head?_trail (trail : Blanks) : ∀ c, trail.1.head? = some c → Text.isWord c = false :=
  fun c first => Text.isWord_of_isBlank (trail.2 c (List.mem_of_head? first))

/-! ### Looking at the whole text -/

theorem areShifts_text {offsets : Offsets} (lead trail : Blanks) {bound : Nat}
    (enough : offsets.later.length < bound) :
    areShifts bound (lead.1 ++ (offsets.text ++ trail.1)) = true := by
  obtain ⟨first, later⟩ := offsets
  induction later generalizing first lead bound with
  | nil =>
    have one := shift?_dropWhile_eq_some_iff.mpr ⟨lead, first, rfl, isWord_of_head?_trail trail, rfl⟩
    obtain ⟨bound, rfl⟩ := Nat.exists_eq_add_one_of_ne_zero (Nat.ne_of_gt enough)
    rw [text_nil, areShifts, one]
    simp [List.all_eq_true.mpr trail.2]
  | cons l later inductionHypothesis =>
    have apart := isWord_of_head?_later l later trail.1
    have one := shift?_dropWhile_eq_some_iff.mpr ⟨lead, first, rfl, apart, rfl⟩
    obtain ⟨bound, rfl⟩ := Nat.exists_eq_add_one_of_ne_zero (Nat.ne_of_gt (Nat.zero_lt_of_lt enough))
    have others := inductionHypothesis l.lead l.written (Nat.lt_of_succ_lt_succ enough)
    rw [text_cons, List.append_assoc, List.append_assoc, areShifts, one]
    dsimp only
    rw [others, Bool.or_true]

theorem exists_of_areShifts {bound : Nat} {cs : List Char} (accepted : areShifts bound cs = true) :
    ∃ (lead : Blanks) (offsets : Offsets) (trail : Blanks), cs = lead.1 ++ (offsets.text ++ trail.1) := by
  induction bound generalizing cs with
  | zero => cases accepted
  | succ bound inductionHypothesis =>
    unfold areShifts at accepted
    split at accepted
    · next shift rest isShift =>
      obtain ⟨lead, written, rfl, apart, rfl⟩ := shift?_dropWhile_eq_some_iff.mp isShift
      rcases Bool.or_eq_true_iff.mp accepted with ended | goesOn
      · refine ⟨lead, ⟨written, []⟩, ⟨rest, List.all_eq_true.mp ended⟩, ?_⟩
        rw [text_nil]
      · obtain ⟨next, ⟨first, later⟩, trail, rfl⟩ := inductionHypothesis goesOn
        rw [text, List.append_assoc] at apart
        have isApart := (isWord_of_head?_iff next first _).mp apart
        refine ⟨lead, ⟨written, ⟨next, first, isApart⟩ :: later⟩, trail, ?_⟩
        rw [text_cons]
        simp only [List.append_assoc]
    · cases accepted

theorem length_later_lt (offsets : Offsets) : offsets.later.length < offsets.text.length := by
  obtain ⟨first, later⟩ := offsets
  induction later generalizing first with
  | nil =>
    rw [text_nil]
    exact first.length_text_pos
  | cons l later inductionHypothesis =>
    have others := inductionHypothesis l.written
    have some := first.length_text_pos
    rw [text_cons]
    simp only [List.length_append, List.length_cons] at others ⊢
    omega

/-! ### Searching the text -/

theorem search_blanks {cs : List Char} (blank : ∀ c ∈ cs, Text.isBlank c = true) (bound : Nat) :
    search bound cs = [] := by
  induction bound generalizing cs with
  | zero => simp [search]
  | succ bound inductionHypothesis =>
    cases cs with
    | nil => simp [search]
    | cons c cs =>
      have none : shift? (c :: cs) = none := by
        refine shift?_eq_none (fun d first => blank d (List.mem_of_head? first)) ?_
        rw [List.dropWhile_eq_nil_iff.mpr blank]
        simp
      rw [List.forall_mem_cons] at blank
      rw [search, none]
      exact inductionHypothesis blank.2

/-- The search passes over the blanks in front of a sign and then finds the offset. -/
theorem search_written {lead : List Char} {written : Written} {rest : List Char} {bound : Nat}
    (blank : ∀ c ∈ lead, Text.isBlank c = true)
    (apart : ∀ c, rest.head? = some c → Text.isWord c = false) (enough : lead.length < bound) :
    ∃ left, bound ≤ left + lead.length + 1 ∧
      search bound (lead ++ (written.text ++ rest)) = written.shift :: search left rest := by
  obtain ⟨bound, rfl⟩ := Nat.exists_eq_add_one_of_ne_zero (Nat.ne_of_gt (Nat.zero_lt_of_lt enough))
  induction lead generalizing bound with
  | nil =>
    have one := shift?_text ⟨[], blank⟩ written (.inl rfl) apart
    obtain ⟨c, tail, isText, _⟩ := written.head_text
    rw [isText, List.nil_append, List.cons_append] at one ⊢
    refine ⟨bound, Nat.le_refl _, ?_⟩
    rw [search, one]
  | cons b lead inductionHypothesis =>
    by_cases bare : written.sign = .absent
    · have one := shift?_text ⟨b :: lead, blank⟩ written (.inr bare) apart
      refine ⟨bound, by omega, ?_⟩
      rw [List.cons_append] at one ⊢
      rw [search, one]
    · have none : shift? (b :: (lead ++ (written.text ++ rest))) = none := by
        apply shift?_eq_none
        · rintro _ ⟨⟩
          exact blank b List.mem_cons_self
        · rw [← List.cons_append, Text.dropWhile_run blank fun c first => Written.isBlank_of_head?_text first]
          exact fun c first => Written.isDigit_of_head?_text bare first
      obtain ⟨bound, rfl⟩ : ∃ less, bound = less + 1 := Nat.exists_eq_add_one_of_ne_zero (by
        rw [List.length_cons] at enough
        omega)
      obtain ⟨left, isLeft, found⟩ := inductionHypothesis (List.forall_mem_cons.mp blank).2 bound
        (Nat.lt_of_succ_lt_succ enough)
      refine ⟨left, by rw [List.length_cons]; omega, ?_⟩
      rw [List.cons_append, search, none]
      exact found

theorem search_text {offsets : Offsets} (lead trail : Blanks) {bound : Nat}
    (enough : (lead.1 ++ (offsets.text ++ trail.1)).length ≤ bound) :
    search bound (lead.1 ++ (offsets.text ++ trail.1)) = offsets.shifts := by
  -- The search may begin anew at every character, so that its bound counts characters; looking at the
  -- whole text takes an offset at a time.
  obtain ⟨first, later⟩ := offsets
  induction later generalizing first lead bound with
  | nil =>
    have some := first.length_text_pos
    rw [text_nil] at enough ⊢
    simp only [List.length_append] at enough
    obtain ⟨left, _, found⟩ := search_written lead.2 (isWord_of_head?_trail trail)
      (show lead.1.length < bound by omega)
    rw [found, search_blanks trail.2]
    rfl
  | cons l later inductionHypothesis =>
    have some := first.length_text_pos
    rw [text_cons, List.append_assoc, List.append_assoc] at enough ⊢
    simp only [List.length_append] at enough
    obtain ⟨left, isLeft, found⟩ := search_written lead.2 (isWord_of_head?_later l later trail.1)
      (show lead.1.length < bound by omega)
    have room : (l.lead.1 ++ (text ⟨l.written, later⟩ ++ trail.1)).length ≤ left := by
      simp only [List.length_append]
      omega
    rw [found, inductionHypothesis l.lead l.written room]
    rfl

end Offsets

/-- A text is read as offsets if and only if it is laid out as offsets, and these are the ones that are
read. -/
theorem shifts?_eq_some_iff {cs : List Char} {shifts : List Shift} :
    shifts? cs = some shifts ↔ ∃ (lead : Blanks) (offsets : Offsets) (trail : Blanks),
      cs = lead.1 ++ (offsets.text ++ trail.1) ∧ shifts = offsets.shifts := by
  unfold shifts?
  constructor
  · intro found
    split at found
    · next accepted =>
      obtain ⟨lead, offsets, trail, rfl⟩ := Offsets.exists_of_areShifts accepted
      rw [Offsets.search_text lead trail (Nat.le_refl _)] at found
      exact ⟨lead, offsets, trail, rfl, (Option.some.inj found).symm⟩
    · cases found
  · rintro ⟨lead, offsets, trail, rfl, rfl⟩
    have enough : offsets.later.length < (lead.1 ++ (offsets.text ++ trail.1)).length := by
      have := offsets.length_later_lt
      simp only [List.length_append]
      omega
    rw [if_pos (Offsets.areShifts_text lead trail enough), Offsets.search_text lead trail (Nat.le_refl _)]

end PromptTree.Calendar.Expression
