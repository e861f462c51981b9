import PromptTree.Proofs.Calendar.Layout
import PromptTree.Proofs.Calendar.Shift

/-!
Phrases that are made of offsets. A keyword may name the moment to start from, and the word `ago` turns all
offsets round. Main statements: a phrase that is taken apart starts from the moment of its keyword, or
from now (`startOf_text`), and its offsets are applied to that moment (`relative_of_startOf`).
-/

namespace PromptTree.Calendar.Expression

/-! ### Keywords -/

/-- The words that name a moment without any offset. -/
inductive Keyword where
  | now | today | midnight | noon | tomorrow | yesterday
deriving DecidableEq

namespace Keyword

def word : Keyword → String
  | now => "now"
  | today => "today"
  | midnight => "midnight"
  | noon => "noon"
  | tomorrow => "tomorrow"
  | yesterday => "yesterday"

/-- The moment that a keyword names, unless the calendar ends before it. -/
def moment (now : Moment) : Keyword → Except MomentError Moment
  | .now => .ok now
  | .today | .midnight => .ok now.midnight
  | .noon => .ok now.noon
  | .tomorrow => addSeconds now.midnight 86400
  | .yesterday => addSeconds now.midnight (-86400)

theorem keyword?_eq_some_iff {now : Moment} {s : String} {outcome : Except MomentError Moment} :
    keyword? now s = some outcome ↔ ∃ keyword : Keyword, s = keyword.word ∧ outcome = keyword.moment now := by
  constructor
  · intro found
    unfold keyword? at found
    split at found
    · exact ⟨.now, rfl, (Option.some.inj found).symm⟩
    · exact ⟨.today, rfl, (Option.some.inj found).symm⟩
    · exact ⟨.midnight, rfl, (Option.some.inj found).symm⟩
    · exact ⟨.noon, rfl, (Option.some.inj found).symm⟩
    · exact ⟨.tomorrow, rfl, (Option.some.inj found).symm⟩
    · exact ⟨.yesterday, rfl, (Option.some.inj found).symm⟩
    · cases found
  · rintro ⟨keyword, rfl, rfl⟩
    cases keyword <;> rfl

theorem isLower_of_mem {keyword : Keyword} {c : Char} (isIn : c ∈ keyword.word.toList) :
    c.isLower = true := by
  have small : keyword.word.toList.all (fun c => decide (c.isLower = true)) = true := by
    cases keyword <;> decide
  exact Text.forall_mem_of_all small c isIn

theorem word_ne_nil (keyword : Keyword) : keyword.word.toList ≠ [] := by
  cases keyword <;> decide

theorem keyword?_eq_none {cs : List Char} {c : Char} (isIn : c ∈ cs) (notLower : c.isLower = false)
    (now : Moment) : keyword? now (.ofList cs) = none := by
  rw [Option.eq_none_iff_forall_ne_some]
  intro outcome found
  obtain ⟨keyword, same, _⟩ := keyword?_eq_some_iff.mp found
  rw [← String.toList_ofList (l := cs), same] at isIn
  rw [isLower_of_mem isIn] at notLower
  cases notLower

end Keyword

/-- The moment that offsets start from. -/
inductive Starts (now : Moment) : Option Keyword → Moment → Prop where
  | absent : Starts now none now
  | now : Starts now (some .now) now
  | today : Starts now (some .today) now.midnight
  | midnight : Starts now (some .midnight) now.midnight
  | noon : Starts now (some .noon) now.noon
  | tomorrow {m : Moment} : m.date.ordinal = now.date.ordinal + 1 → m.time = .midnight →
    m.offset = now.offset → Starts now (some .tomorrow) m
  | yesterday {m : Moment} : m.date.ordinal + 1 = now.date.ordinal → m.time = .midnight →
    m.offset = now.offset → Starts now (some .yesterday) m

/-- The keywords for the day behind the last one of the calendar and the day before the first. -/
inductive Keyword.Outside (now : Moment) : Keyword → Prop where
  | tomorrow : now.date.ordinal = Date.lastOrdinal → Outside now .tomorrow
  | yesterday : now.date.ordinal = 1 → Outside now .yesterday

theorem microseconds_midnight (m : Moment) :
    m.midnight.microseconds = (m.date.ordinal - 1 : Int) * dayMicroseconds := by
  simp [Moment.microseconds, Moment.midnight, TimeOfDay.midnight]

theorem addSeconds_midnight_eq_ok_iff {now m : Moment} {days : Int} :
    addSeconds now.midnight (days * 86400) = .ok m ↔
      (m.date.ordinal : Int) = now.date.ordinal + days ∧ m.time = .midnight ∧ m.offset = now.offset := by
  have day := m.time.lt_day
  have isMidnight : m.time = .midnight ↔ m.time.microseconds = 0 :=
    ⟨fun same => congrArg TimeOfDay.microseconds same, fun same => TimeOfDay.ext same⟩
  rw [Shift.addSeconds_eq_ok_iff, microseconds_midnight, isMidnight, ← and_assoc]
  unfold Moment.microseconds
  simp only [dayMicroseconds] at *
  refine and_congr_left fun _ => ?_
  omega

theorem addSeconds_midnight_eq_error_iff {now : Moment} {days : Int} {e : MomentError} :
    addSeconds now.midnight (days * 86400) = .error e ↔
      (now.date.ordinal + days < 1 ∨ Date.lastOrdinal < now.date.ordinal + days) ∧ e = .shiftTooLarge := by
  rw [Shift.addSeconds_eq_error_iff, microseconds_midnight]
  simp only [dayMicroseconds, Moment.endMicroseconds, Date.lastOrdinal]
  refine and_congr_left fun _ => ?_
  omega

namespace Keyword

theorem moment_eq_ok_iff {keyword : Keyword} {now m : Moment} :
    keyword.moment now = .ok m ↔ Starts now (some keyword) m := by
  cases keyword with
  | now | today | midnight | noon =>
    constructor
    · rintro ⟨⟩
      constructor
    · rintro ⟨⟩
      rfl
  | tomorrow =>
    change addSeconds now.midnight (1 * 86400) = .ok m ↔ _
    rw [addSeconds_midnight_eq_ok_iff]
    constructor
    · rintro ⟨day, time, offset⟩
      exact .tomorrow (by omega) time offset
    · intro starts
      cases starts with
      | tomorrow day time offset => exact ⟨by omega, time, offset⟩
  | yesterday =>
    change addSeconds now.midnight (-1 * 86400) = .ok m ↔ _
    rw [addSeconds_midnight_eq_ok_iff]
    constructor
    · rintro ⟨day, time, offset⟩
      exact .yesterday (by omega) time offset
    · intro starts
      cases starts with
      | yesterday day time offset => exact ⟨by omega, time, offset⟩

theorem moment_eq_error_iff {keyword : Keyword} {now : Moment} {e : MomentError} :
    keyword.moment now = .error e ↔ keyword.Outside now ∧ e = .shiftTooLarge := by
  have day := now.date.ordinal_le_last
  cases keyword with
  | now | today | midnight | noon =>
    constructor
    · rintro ⟨⟩
    · rintro ⟨⟨⟩, _⟩
  | tomorrow =>
    change addSeconds now.midnight (1 * 86400) = .error e ↔ _
    rw [addSeconds_midnight_eq_error_iff]
    refine and_congr_left fun _ => ⟨fun outside => .tomorrow (by omega), ?_⟩
    rintro ⟨last⟩
    omega
  | yesterday =>
    change addSeconds now.midnight (-1 * 86400) = .error e ↔ _
    rw [addSeconds_midnight_eq_error_iff]
    refine and_congr_left fun _ => ⟨fun outside => .yesterday (by omega), ?_⟩
    rintro ⟨first⟩
    omega

end Keyword

/-! ### Phrases -/

/-- Offsets as they are written, behind a keyword and a space if there is a keyword, and before the word
`ago` if they are turned round. -/
structure Phrase where
  start : Option Keyword
  lead : Blanks
  offsets : Offsets
  trail : Blanks
  ago : Bool

namespace Phrase

def body (phrase : Phrase) : List Char :=
  phrase.lead.1 ++ (phrase.offsets.text ++
    (phrase.trail.1 ++ if phrase.ago then [' ', 'a', 'g', 'o'] else []))

def text (phrase : Phrase) : List Char :=
  match phrase.start with
  | none => phrase.body
  | some keyword => keyword.word.toList ++ ' ' :: phrase.body

def closed (phrase : Phrase) : Phrase :=
  { phrase with trail := if phrase.ago then phrase.trail else noBlanks }

/-- The phrase without the blanks at either end of its body. -/
def trimmed (phrase : Phrase) : Phrase :=
  { phrase.closed with lead := noBlanks }

theorem getLast?_body (phrase : Phrase) : ∃ c, phrase.body.getLast? = some c ∧
    Text.isDigit c = false ∧ c ≠ 'z' ∧ (phrase.ago = false → c ≠ 'o') := by
  obtain ⟨start, lead, offsets, trail, ago⟩ := phrase
  cases ago with
  | true => exact ⟨'o', by simp [body, List.getLast?_append], by decide, by decide, by simp⟩
  | false =>
    cases last : trail.1.getLast? with
    | none =>
      obtain ⟨c, isLast, small, notO, notZ⟩ := offsets.getLast?_text
      refine ⟨c, ?_, Text.isDigit_of_isLower small, notZ, fun _ => notO⟩
      simp [body, List.getLast?_append, last, isLast]
    | some c =>
      have blank := trail.2 c (List.mem_of_getLast? last)
      refine ⟨c, ?_, Text.isDigit_of_isBlank blank, ?_, fun _ => ?_⟩
      · simp [body, List.getLast?_append, last]
      all_goals
        rintro rfl
        exact absurd blank (by decide)

theorem body_ne_nil (phrase : Phrase) : phrase.body ≠ [] := by
  obtain ⟨c, last, _⟩ := phrase.getLast?_body
  rintro none
  rw [none] at last
  cases last

theorem isBlank_of_getLast?_closed {phrase : Phrase} {c : Char} (last : phrase.closed.body.getLast? = some c) :
    Text.isBlank c = false := by
  obtain ⟨start, lead, offsets, trail, ago⟩ := phrase
  cases ago with
  | true =>
    simp [closed, body, List.getLast?_append] at last
    subst last
    decide
  | false =>
    obtain ⟨d, isLast, small, _⟩ := offsets.getLast?_text
    simp [closed, body, List.getLast?_append, isLast] at last
    subst last
    exact Text.isBlank_of_isLower small

/-- The blanks that trimming takes from the end. -/
theorem exists_trail (phrase : Phrase) : ∃ trail : Blanks, phrase.body = phrase.closed.body ++ trail.1 := by
  obtain ⟨start, lead, offsets, trail, ago⟩ := phrase
  cases ago with
  | true => exact ⟨noBlanks, by simp [closed, body]⟩
  | false => exact ⟨trail, by simp [closed, body]⟩

theorem trimWhile_body (phrase : Phrase) : Text.trimWhile Text.isBlank phrase.body = phrase.trimmed.body := by
  obtain ⟨trail, whole⟩ := phrase.exists_trail
  have lead : phrase.closed.body = phrase.lead.1 ++ phrase.trimmed.body := rfl
  have tight : Text.Tight phrase.trimmed.body := by
    refine ⟨fun c first => Offsets.isBlank_of_head?_text first, fun c last => ?_⟩
    refine isBlank_of_getLast?_closed (?_ : phrase.closed.body.getLast? = some c)
    rw [lead, List.getLast?_append, last]
    rfl
  rw [whole, lead, List.append_assoc]
  exact Text.trimWhile_between phrase.lead.2 tight phrase.trimmed.body_ne_nil trail.2

theorem trimWhile_text (phrase : Phrase) : ∃ other : Phrase, other.start = phrase.start ∧
    other.offsets = phrase.offsets ∧ other.ago = phrase.ago ∧
      Text.trimWhile Text.isBlank phrase.text = other.text := by
  cases isStart : phrase.start with
  | none =>
    refine ⟨phrase.trimmed, isStart, rfl, rfl, ?_⟩
    have isBody : phrase.text = phrase.body := by rw [text, isStart]
    have isTrimmed : phrase.trimmed.text = phrase.trimmed.body := by
      rw [text, show phrase.trimmed.start = none from isStart]
    rw [isBody, trimWhile_body, isTrimmed]
  | some keyword =>
    refine ⟨phrase.closed, isStart, rfl, rfl, ?_⟩
    have isText : phrase.text = keyword.word.toList ++ ' ' :: phrase.body := by rw [text, isStart]
    have isClosed : phrase.closed.text = keyword.word.toList ++ ' ' :: phrase.closed.body := by
      rw [text, show phrase.closed.start = some keyword from isStart]
    obtain ⟨trail, whole⟩ := phrase.exists_trail
    have tight : Text.Tight phrase.closed.text := by
      rw [isClosed]
      refine ⟨Text.stop_append_of_ne_nil (fun c isIn => Text.isBlank_of_isLower (Keyword.isLower_of_mem isIn))
        keyword.word_ne_nil _, fun c last => ?_⟩
      obtain ⟨d, isLast, _⟩ := phrase.closed.getLast?_body
      rw [List.getLast?_append, List.getLast?_cons, isLast] at last
      cases last
      exact isBlank_of_getLast?_closed isLast
    have some : phrase.closed.text ≠ [] := by
      rw [isClosed]
      simp
    rw [isText, whole, ← List.cons_append, ← List.append_assoc, ← isClosed]
    have none : ∀ c ∈ ([] : List Char), Text.isBlank c = true := by simp
    exact Text.trimWhile_between none tight some trail.2

theorem beforeAgo?_body (phrase : Phrase) : beforeAgo? phrase.body =
    if phrase.ago then some (phrase.lead.1 ++ (phrase.offsets.text ++ phrase.trail.1)) else none := by
  obtain ⟨c, last, _, _, notO⟩ := phrase.getLast?_body
  cases isAgo : phrase.ago with
  | true =>
    have whole : phrase.body.reverse = [' ', 'a', 'g', 'o'].reverse ++
        (phrase.lead.1 ++ (phrase.offsets.text ++ phrase.trail.1)).reverse := by
      simp [body, isAgo]
    rw [beforeAgo?, whole, Text.after?_append]
    simp
  | false =>
    rw [List.getLast?_eq_some_iff] at last
    obtain ⟨lead, whole⟩ := last
    rw [beforeAgo?, whole, List.reverse_append]
    have notO := (notO isAgo).symm
    simp [Text.after?, notO]

/-- A body begins with a blank, a sign or a digit. -/
theorem isLower_of_head?_body {phrase : Phrase} {c : Char} (first : phrase.body.head? = some c) :
    c.isLower = false ∧ c ≠ '@' := by
  have classes (class_ : Text.isBlank c = true ∨ c = '+' ∨ c = '-' ∨ Text.isDigit c = true) :
      c.isLower = false ∧ c ≠ '@' := by
    constructor
    · rw [Bool.eq_false_iff]
      intro small
      have notBlank := Text.isBlank_of_isLower small
      have notDigit := Text.isDigit_of_isLower small
      rcases class_ with blank | rfl | rfl | digit
      · rw [blank] at notBlank; cases notBlank
      · exact absurd small (by decide)
      · exact absurd small (by decide)
      · rw [digit] at notDigit; cases notDigit
    · rintro rfl
      revert class_
      decide +kernel
  apply classes
  obtain ⟨start, ⟨_ | ⟨b, bs⟩, blank⟩, offsets, trail, ago⟩ := phrase
  · obtain ⟨d, rest, isText, class_⟩ := offsets.first.head_text
    simp only [body, Offsets.text, isText] at first
    cases first
    exact .inr class_
  · cases first
    exact .inl (blank c List.mem_cons_self)

theorem getLast?_text (phrase : Phrase) :
    ∃ c, phrase.text.getLast? = some c ∧ Text.isDigit c = false ∧ c ≠ 'z' := by
  obtain ⟨c, last, notDigit, notZ, _⟩ := phrase.getLast?_body
  refine ⟨c, ?_, notDigit, notZ⟩
  unfold text
  split
  · exact last
  · rw [List.getLast?_append, List.getLast?_cons, last]
    rfl

theorem head?_text_ne (phrase : Phrase) : phrase.text.head? ≠ some '@' := by
  intro first
  unfold text at first
  split at first
  · exact (isLower_of_head?_body first).2 rfl
  · next keyword _ =>
    obtain ⟨d, ds, isWord⟩ := List.exists_cons_of_ne_nil keyword.word_ne_nil
    have small := Keyword.isLower_of_mem (isWord ▸ List.mem_cons_self : d ∈ keyword.word.toList)
    rw [isWord] at first
    cases first
    exact absurd small (by decide)

theorem exists_not_lower (phrase : Phrase) : ∃ c ∈ phrase.text, c.isLower = false := by
  obtain ⟨c, rest, isBody⟩ := List.exists_cons_of_ne_nil phrase.body_ne_nil
  refine ⟨c, ?_, (isLower_of_head?_body (by rw [isBody]; rfl)).1⟩
  unfold text
  split <;> simp [isBody]

theorem isLow_of_mem {phrase : Phrase} {c : Char} (isIn : c ∈ phrase.text) : Text.IsLow c := by
  have inBody (isIn : c ∈ phrase.body) : Text.IsLow c := by
    simp only [body, List.mem_append] at isIn
    rcases isIn with isIn | isIn | isIn | isIn
    · exact Text.isLow_of_isBlank (phrase.lead.2 c isIn)
    · exact Offsets.isLow_of_mem isIn
    · exact Text.isLow_of_isBlank (phrase.trail.2 c isIn)
    · have ago : ∀ c ∈ [' ', 'a', 'g', 'o'], Text.IsLow c := Text.forall_mem_of_all (by decide)
      split at isIn
      · exact ago c isIn
      · cases isIn
  unfold text at isIn
  split at isIn
  · exact inBody isIn
  · rcases List.mem_append.mp isIn with isIn | isIn
    · exact Text.isLow_of_isLower (Keyword.isLower_of_mem isIn)
    · rcases List.mem_cons.mp isIn with rfl | isIn
      · decide
      · exact inBody isIn

end Phrase

/-! ### Taking a phrase apart -/

/-- The moment that offsets start from, and what stands behind the keyword if there is one. -/
def startOf (now : Moment) (cs : List Char) : Except MomentError (Moment × List Char) :=
  match keyword? now (.ofList (Text.cutAt ' ' cs).1), (Text.cutAt ' ' cs).2 with
  | some (.error e), _ => .error e
  | some (.ok moment), some (c :: rest) => .ok (moment, Text.trimWhile Text.isBlank (c :: rest))
  | _, _ => .ok (now, cs)

/-- Whether the word `ago` ends a phrase, and what it leaves. -/
def turned (cs : List Char) : Bool × List Char :=
  match beforeAgo? cs with
  | some rest => (true, rest)
  | none => (false, cs)

theorem relative_eq (expression : String) (now : Moment) (cs : List Char) :
    relative expression now cs = startOf now cs >>= fun (base, rest) =>
      match shifts? (turned rest).2 with
      | some shifts => applyAll shifts (turned rest).1 base
      | none => .error (.notUnderstood expression) := by
  unfold relative startOf turned
  rcases Text.cutAt ' ' cs with ⟨head, tail⟩
  dsimp only
  rcases keyword? now (.ofList head) with _ | _ | moment
  · rfl
  · rfl
  · rcases tail with _ | _ | ⟨c, rest⟩ <;> rfl

/-- A phrase begins with a keyword: it is one, or a space follows. -/
def Keyword.Begins (keyword : Keyword) (cs : List Char) : Prop :=
  cs = keyword.word.toList ∨ ∃ rest, cs = keyword.word.toList ++ ' ' :: rest

theorem Keyword.space_not_mem (keyword : Keyword) : ' ' ∉ keyword.word.toList := by
  cases keyword <;> decide

theorem Keyword.begins_iff {keyword : Keyword} {cs : List Char} :
    keyword.Begins cs ↔ String.ofList (Text.cutAt ' ' cs).1 = keyword.word := by
  rw [← String.toList_inj, String.toList_ofList]
  constructor
  · rintro (rfl | ⟨rest, rfl⟩)
    · rw [Text.cutAt_of_not_mem keyword.space_not_mem]
    · rw [Text.cutAt_append keyword.space_not_mem]
  · intro same
    rcases Text.mem_or_cutAt ' ' cs with ⟨_, cut⟩ | ⟨head, rest, _, rfl, cut⟩
    · rw [cut] at same
      exact .inl same
    · rw [cut] at same
      exact .inr ⟨rest, congrArg (· ++ ' ' :: rest) same⟩

theorem Keyword.Begins.found {keyword : Keyword} {cs : List Char} (begins : keyword.Begins cs)
    (now : Moment) : keyword? now (.ofList (Text.cutAt ' ' cs).1) = some (keyword.moment now) :=
  keyword?_eq_some_iff.mpr ⟨keyword, begins_iff.mp begins, rfl⟩

theorem startOf_eq_error_iff {now : Moment} {cs : List Char} {e : MomentError} :
    startOf now cs = .error e ↔ ∃ keyword : Keyword, keyword.Begins cs ∧ keyword.moment now = .error e := by
  constructor
  · intro failed
    unfold startOf at failed
    split at failed
    · next isKeyword =>
      obtain ⟨keyword, same, isMoment⟩ := Keyword.keyword?_eq_some_iff.mp isKeyword
      cases failed
      exact ⟨keyword, Keyword.begins_iff.mpr same, isMoment.symm⟩
    · cases failed
    · cases failed
  · rintro ⟨keyword, begins, isMoment⟩
    unfold startOf
    rw [begins.found, isMoment]

theorem startOf_keyword {now base : Moment} {keyword : Keyword} {rest : List Char}
    (isMoment : keyword.moment now = .ok base) (some : rest ≠ []) :
    startOf now (keyword.word.toList ++ ' ' :: rest) = .ok (base, Text.trimWhile Text.isBlank rest) := by
  obtain ⟨c, rest, rfl⟩ := List.exists_cons_of_ne_nil some
  have begins : keyword.Begins (keyword.word.toList ++ ' ' :: c :: rest) := .inr ⟨c :: rest, rfl⟩
  unfold startOf
  rw [begins.found, isMoment, Text.cutAt_append keyword.space_not_mem]

theorem startOf_of_head {now : Moment} {cs : List Char}
    (first : ∀ c, cs.head? = some c → c.isLower = false) : startOf now cs = .ok (now, cs) := by
  have none : keyword? now (.ofList (Text.cutAt ' ' cs).1) = none := by
    rw [Option.eq_none_iff_forall_ne_some]
    intro outcome found
    obtain ⟨keyword, same, _⟩ := Keyword.keyword?_eq_some_iff.mp found
    obtain ⟨d, ds, isWord⟩ := List.exists_cons_of_ne_nil keyword.word_ne_nil
    have small := Keyword.isLower_of_mem (isWord ▸ List.mem_cons_self : d ∈ keyword.word.toList)
    have notSmall : d.isLower = false := by
      apply first
      rcases Keyword.begins_iff.mpr same with rfl | ⟨rest, rfl⟩ <;> rw [isWord] <;> rfl
    rw [notSmall] at small
    cases small
  unfold startOf
  rw [none]

theorem startOf_eq_ok {now base : Moment} {cs rest : List Char} (found : startOf now cs = .ok (base, rest)) :
    (base = now ∧ rest = cs) ∨ ∃ (keyword : Keyword) (tail : List Char),
      cs = keyword.word.toList ++ ' ' :: tail ∧ keyword.moment now = .ok base ∧
        rest = Text.trimWhile Text.isBlank tail := by
  unfold startOf at found
  split at found
  · cases found
  · next c tail isKeyword isTail =>
    cases found
    obtain ⟨keyword, same, isMoment⟩ := Keyword.keyword?_eq_some_iff.mp isKeyword
    have cut := Text.append_of_cutAt_some (Prod.ext rfl isTail : Text.cutAt ' ' cs = (_, some (c :: tail)))
    rw [← String.toList_inj, String.toList_ofList] at same
    exact .inr ⟨keyword, c :: tail, same ▸ cut, isMoment.symm, rfl⟩
  · cases found
    exact .inl ⟨rfl, rfl⟩

theorem turned_body (phrase : Phrase) :
    turned phrase.body = (phrase.ago, phrase.lead.1 ++ (phrase.offsets.text ++ phrase.trail.1)) := by
  rw [turned, phrase.beforeAgo?_body]
  cases isAgo : phrase.ago with
  | true => rfl
  | false => simp [Phrase.body, isAgo]

theorem turned_append (cs : List Char) :
    cs = (turned cs).2 ++ if (turned cs).1 then [' ', 'a', 'g', 'o'] else [] := by
  unfold turned beforeAgo?
  cases isAgo : Text.after? [' ', 'a', 'g', 'o'].reverse cs.reverse with
  | none => simp
  | some later =>
    have whole := congrArg List.reverse (Text.append_of_after? isAgo)
    simpa using whole

theorem relative_of_startOf {expression : String} {now base : Moment} {cs : List Char} {phrase : Phrase}
    (start : startOf now cs = .ok (base, phrase.body)) :
    relative expression now cs = applyAll phrase.offsets.shifts phrase.ago base := by
  have read := shifts?_eq_some_iff.mpr ⟨phrase.lead, phrase.offsets, phrase.trail, rfl, rfl⟩
  simp only [relative_eq, start, turned_body, read, bind, Except.bind]

theorem relative_of_error {expression : String} {now : Moment} {cs : List Char} {e : MomentError}
    (failed : startOf now cs = .error e) : relative expression now cs = .error e := by
  rw [relative_eq, failed]
  rfl

theorem startOf_text {phrase : Phrase} {now base : Moment} (starts : Starts now phrase.start base) :
    ∃ other : Phrase, other.offsets = phrase.offsets ∧ other.ago = phrase.ago ∧
      startOf now phrase.text = .ok (base, other.body) := by
  cases isStart : phrase.start with
  | none =>
    rw [isStart] at starts
    cases starts
    refine ⟨phrase, rfl, rfl, ?_⟩
    rw [Phrase.text, isStart]
    exact startOf_of_head fun c first => (Phrase.isLower_of_head?_body first).1
  | some keyword =>
    rw [isStart] at starts
    refine ⟨phrase.trimmed, rfl, rfl, ?_⟩
    rw [Phrase.text, isStart, ← phrase.trimWhile_body]
    exact startOf_keyword (Keyword.moment_eq_ok_iff.mpr starts) phrase.body_ne_nil

end PromptTree.Calendar.Expression
