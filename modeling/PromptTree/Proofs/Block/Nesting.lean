import PromptTree.Proofs.Block.Settling

/-!
Blocks inside of blocks. A text with blocks is a tree: its parts are stretches of text and blocks,
and a block has modes and parts again. Main statement: the transformation of the text as it is
written gives what the tree comes to from the inside out (`transform_writeAll`). One pass evaluates
the innermost blocks only, wherever in the tree they are, and leaves the value of the tree the same
(`pass_writeAll`).
-/

namespace PromptTree.Block

open Text

/-- The modes of a block. None has a character in it that separates modes or is part of a mark, and
together they do not make the block an end mark. -/
structure Modes where
  names : List (List Char)
  some : names ≠ []
  plain : ∀ name ∈ names, ∀ c ∈ name, c ≠ '<' ∧ c ≠ '>' ∧ c ≠ '|'
  notEnd : joinWith '|' names ≠ ['e', 'n', 'd']

namespace Modes

variable (modes : Modes)

def text : List Char :=
  joinWith '|' modes.names

def areKnown : Bool :=
  modes.names.all fun name => (Transform.named? name).isSome

/-- The body, passed through the transforms from left to right. -/
def value (body : List Char) : List Char :=
  (modes.names.filterMap Transform.named?).foldl (fun body transform => transform.apply body) body

end Modes

/-- A part of a text with blocks: a stretch in which no opening mark begins, such as one without
angle brackets, or a block. -/
inductive Part where
  | text (cs : List Char) (inert : Inert cs)
  | block (modes : Modes) (children : List Part)

mutual

def Part.write : Part → List Char
  | .text cs _ => cs
  | .block modes children =>
    opening ++ (modes.text ++ (closing ++ (writeAll children ++ (opening ++ endTail))))
termination_by structural part => part

def writeAll : List Part → List Char
  | [] => []
  | part :: parts => part.write ++ writeAll parts
termination_by structural parts => parts

end

mutual

def Part.value : Part → List Char
  | .text cs _ => cs
  | .block modes children => modes.value (valueAll children)
termination_by structural part => part

def valueAll : List Part → List Char
  | [] => []
  | part :: parts => part.value ++ valueAll parts
termination_by structural parts => parts

end

mutual

def Part.isKnown : Part → Bool
  | .text _ _ => true
  | .block modes children => modes.areKnown && areKnown children
termination_by structural part => part

def areKnown : List Part → Bool
  | [] => true
  | part :: parts => part.isKnown && areKnown parts
termination_by structural parts => parts

end

mutual

def Part.blocks : Part → Nat
  | .text _ _ => 0
  | .block _ children => blocksIn children + 1
termination_by structural part => part

def blocksIn : List Part → Nat
  | [] => 0
  | part :: parts => part.blocks + blocksIn parts
termination_by structural parts => parts

end

section

variable (first second : List Part)

theorem writeAll_append : writeAll (first ++ second) = writeAll first ++ writeAll second := by
  induction first with
  | nil => rfl
  | cons part first inductionHypothesis => simp [writeAll, inductionHypothesis]

theorem valueAll_append : valueAll (first ++ second) = valueAll first ++ valueAll second := by
  induction first with
  | nil => rfl
  | cons part first inductionHypothesis => simp [valueAll, inductionHypothesis]

theorem areKnown_append : areKnown (first ++ second) = (areKnown first && areKnown second) := by
  induction first with
  | nil => rfl
  | cons part first inductionHypothesis => simp [areKnown, inductionHypothesis, Bool.and_assoc]

theorem blocksIn_append : blocksIn (first ++ second) = blocksIn first + blocksIn second := by
  induction first with
  | nil => simp [blocksIn]
  | cons part first inductionHypothesis => simp [blocksIn, inductionHypothesis, Nat.add_assoc]

end

/-! ### Parts without blocks, and the first block -/

/-- Without blocks there is only text, in which no block begins and which is its own value. -/
theorem inert_of_blocksIn_eq_zero {parts : List Part} (none : blocksIn parts = 0) :
    Inert (writeAll parts) ∧ valueAll parts = writeAll parts ∧ areKnown parts = true := by
  induction parts with
  | nil => exact ⟨trivial, rfl, rfl⟩
  | cons part parts inductionHypothesis =>
    rw [blocksIn, Nat.add_eq_zero_iff] at none
    obtain ⟨inert, same, known⟩ := inductionHypothesis none.2
    cases part with
    | text cs inertText =>
      refine ⟨inert_append inertText inert, ?_, known⟩
      rw [valueAll, writeAll, same]
      rfl
    | block modes children => cases none.1

theorem exists_first_block {parts : List Part} (some : blocksIn parts ≠ 0) :
    ∃ (before : List Char) (modes : Modes) (rest : List Char), Inert before ∧
      writeAll parts = before ++ (opening ++ (modes.text ++ (closing ++ rest))) := by
  induction parts with
  | nil => exact absurd rfl some
  | cons part parts inductionHypothesis =>
    cases part with
    | text cs inert =>
      have some : blocksIn parts ≠ 0 := by simpa [blocksIn, Part.blocks] using some
      obtain ⟨before, modes, rest, inertBefore, written⟩ := inductionHypothesis some
      refine ⟨cs ++ before, modes, rest, inert_append inert inertBefore, ?_⟩
      rw [writeAll, written, List.append_assoc]
      rfl
    | block modes children =>
      refine ⟨[], modes, writeAll children ++ (opening ++ endTail) ++ writeAll parts, trivial, ?_⟩
      simp [writeAll, Part.write, List.append_assoc]

theorem Modes.text_plain (modes : Modes) : ∀ c ∈ modes.text, c ≠ '<' ∧ c ≠ '>' := by
  intro c isIn
  rcases mem_joinWith isIn with rfl | ⟨name, isName, isIn⟩
  · decide
  · have plain := modes.plain name isName c isIn
    exact ⟨plain.1, plain.2.1⟩

theorem Modes.splitOn_text (modes : Modes) : splitOn '|' modes.text = modes.names :=
  splitOn_joinWith modes.some fun name isName isIn => (modes.plain name isName '|' isIn).2.2 rfl

/-! ### Pipelines -/

theorem pipe_of_known {names : List (List Char)} {body : List Char}
    (known : (names.all fun name => (Transform.named? name).isSome) = true) :
    pipe names body =
      .ok ((names.filterMap Transform.named?).foldl (fun body transform => transform.apply body)
        body) := by
  induction names generalizing body with
  | nil => rfl
  | cons name names inductionHypothesis =>
    rw [List.all_cons, Bool.and_eq_true] at known
    obtain ⟨transform, isNamed⟩ := Option.isSome_iff_exists.mp known.1
    rw [pipe, isNamed, List.filterMap_cons_some isNamed, List.foldl_cons]
    exact inductionHypothesis known.2

theorem error_of_unknown {names : List (List Char)} (body : List Char)
    (unknown : (names.all fun name => (Transform.named? name).isSome) = false) :
    ∃ e, pipe names body = .error e := by
  induction names generalizing body with
  | nil => cases unknown
  | cons name names inductionHypothesis =>
    rw [pipe]
    cases isNamed : Transform.named? name with
    | none => exact ⟨_, rfl⟩
    | some transform =>
      rw [List.all_cons, isNamed, Option.isSome_some, Bool.true_and] at unknown
      exact inductionHypothesis _ unknown

/-! ### One pass -/

theorem pass_append_of_inert {cs : List Char} (inert : Inert cs) (rest : List Char) :
    pass (cs ++ rest) = (cs ++ ·) <$> pass rest := by
  induction cs with
  | nil => simp
  | cons c cs inductionHypothesis =>
    have none : read? (c :: (cs ++ rest)) = none := by
      rw [read?, after?_opening_of_inert inert]
    rw [List.cons_append, pass_cons none, inductionHypothesis inert.2]
    simp

/-- What is behind the first character of a mark is inert, up to the next one. -/
theorem inert_behind_mark {cs : List Char} (unmarked : '<' ∉ cs) (some : cs ≠ []) :
    Inert ('<' :: '<' :: cs) := by
  have others := sparse_append_of_not_mem 2 unmarked some .nil
  rw [List.append_nil] at others
  exact inert_iff_sparse.mpr (.mark (by decide) (.mark (by decide) others))

/-- A mark that opens no block stays as it is, with what is behind it up to the next one. -/
theorem pass_mark {cs rest : List Char} (unmarked : '<' ∉ cs) (some : cs ≠ [])
    (none : read? (opening ++ (cs ++ rest)) = none) :
    pass (opening ++ (cs ++ rest)) = ((opening ++ cs) ++ ·) <$> pass rest := by
  have behind := pass_append_of_inert (inert_behind_mark unmarked some) rest
  change read? ('<' :: ('<' :: '<' :: cs ++ rest)) = _ at none
  change pass ('<' :: ('<' :: '<' :: cs ++ rest)) = _
  rw [pass_cons none, behind]
  simp [opening]

theorem pass_endMark (rest : List Char) :
    pass (opening ++ (endTail ++ rest)) = ((opening ++ endTail) ++ ·) <$> pass rest := by
  refine pass_mark (by decide) (by decide) ?_
  rw [read?, after?_append]
  dsimp only
  rw [after?_append]
  rfl

/-- The mark of a block with another block in it stays as it is. -/
theorem pass_outer (modes : Modes) {children : List Part} (some : blocksIn children ≠ 0)
    (rest : List Char) :
    pass (opening ++ (modes.text ++ (closing ++ (writeAll children ++ rest)))) =
      ((opening ++ (modes.text ++ closing)) ++ ·) <$> pass (writeAll children ++ rest) := by
  obtain ⟨before, inner, others, inert, written⟩ := exists_first_block some
  have unread :
      read? (opening ++ (modes.text ++ (closing ++ (writeAll children ++ rest)))) = none := by
    rw [read?_opening modes.text_plain modes.notEnd, written]
    simp only [List.append_assoc]
    rw [bodyUntilEnd?_append inert, after?_endTail inner.text_plain inner.notEnd]
    rfl
  have unmarked : '<' ∉ modes.text ++ closing := by
    intro isMark
    rcases List.mem_append.mp isMark with isMark | isMark
    · exact (modes.text_plain '<' isMark).1 rfl
    · revert isMark
      decide
  rw [← List.append_assoc modes.text] at unread ⊢
  exact pass_mark unmarked (by simp [closing]) unread

/-- What a pass makes of some parts: parts of the same value, whose modes are known if they were,
and with fewer blocks if there were any. -/
structure Evaluated (parts next : List Part) : Prop where
  value : valueAll next = valueAll parts
  known : areKnown next = areKnown parts
  fewer : blocksIn next ≤ blocksIn parts - 1

/-- A pass over written parts either fails, for a mode that is not known, or evaluates some of them.
-/
def PassEvaluates (parts : List Part) : Prop :=
  ∀ rest, (areKnown parts = false ∧ ∃ e, pass (writeAll parts ++ rest) = .error e) ∨
    ∃ next, Evaluated parts next ∧
      pass (writeAll parts ++ rest) = (writeAll next ++ ·) <$> pass rest

/-- A block without blocks inside gives way to its value. -/
theorem pass_innermost (modes : Modes) {children : List Part} (none : blocksIn children = 0)
    (rest : List Char) :
    pass ((Part.block modes children).write ++ rest) =
      (do return (← pipe modes.names (writeAll children)) ++ (← pass rest)) := by
  have simple : Simple ⟨modes.text, writeAll children⟩ :=
    ⟨modes.text_plain, modes.notEnd, (inert_of_blocksIn_eq_zero none).1⟩
  have found : read? ((Part.block modes children).write ++ rest) =
      some (⟨modes.text, writeAll children⟩, rest) := by
    refine read?_eq_some_iff.mpr ⟨?_, simple⟩
    simp [Part.write, write, List.append_assoc]
  rw [pass_of_read? found, value, modes.splitOn_text]

theorem passEvaluates_innermost (modes : Modes) {children : List Part}
    (none : blocksIn children = 0) : PassEvaluates [.block modes children] := by
  intro rest
  obtain ⟨inert, same, known⟩ := inert_of_blocksIn_eq_zero none
  have written : writeAll [.block modes children] = (Part.block modes children).write := by
    simp [writeAll]
  rw [written, pass_innermost modes none]
  cases areKnown : modes.areKnown with
  | false =>
    obtain ⟨e, failed⟩ := error_of_unknown (writeAll children) areKnown
    refine .inl ⟨?_, e, ?_⟩
    · simp [Block.areKnown, Part.isKnown, areKnown]
    · rw [failed]
      rfl
  | true =>
    have piped : pipe modes.names (writeAll children) = .ok (modes.value (writeAll children)) :=
      pipe_of_known areKnown
    refine .inr
      ⟨[.text (modes.value (writeAll children)) (inert_pipe inert piped)], ⟨?_, ?_, ?_⟩, ?_⟩
    · simp [valueAll, Part.value, same]
    · simp [Block.areKnown, Part.isKnown, areKnown, known]
    · simp [blocksIn, Part.blocks]
    · rw [piped]
      change (do return modes.value (writeAll children) ++ (← pass rest)) = _
      simp [writeAll, Part.write]

theorem passEvaluates_outer (modes : Modes) {children : List Part} (some : blocksIn children ≠ 0)
    (inner : PassEvaluates children) : PassEvaluates [.block modes children] := by
  intro rest
  have written : writeAll [.block modes children] ++ rest =
      opening ++
        (modes.text ++ (closing ++ (writeAll children ++ (opening ++ (endTail ++ rest))))) := by
    simp [writeAll, Part.write, List.append_assoc]
  rw [written, pass_outer modes some]
  rcases inner (opening ++ (endTail ++ rest)) with ⟨unknown, e, failed⟩ | ⟨next, evaluated, passed⟩
  · refine .inl ⟨?_, e, ?_⟩
    · simp [areKnown, Part.isKnown, unknown]
    · rw [failed]
      rfl
  · refine .inr ⟨[.block modes next], ⟨?_, ?_, ?_⟩, ?_⟩
    · simp [valueAll, Part.value, evaluated.value]
    · simp [areKnown, Part.isKnown, evaluated.known]
    · have fewer := evaluated.fewer
      simp only [blocksIn, Part.blocks]
      omega
    · rw [passed, pass_endMark]
      simp [writeAll, Part.write, List.append_assoc]

theorem passEvaluates_append {first second : List Part} (one : PassEvaluates first)
    (other : PassEvaluates second) : PassEvaluates (first ++ second) := by
  intro rest
  rw [writeAll_append, List.append_assoc, areKnown_append]
  rcases one (writeAll second ++ rest) with ⟨unknown, e, failed⟩ | ⟨next, evaluated, passed⟩
  · exact .inl ⟨by rw [unknown, Bool.false_and], e, failed⟩
  · rw [passed]
    rcases other rest with ⟨unknown, e, failed⟩ | ⟨after, evaluatedAfter, passedAfter⟩
    · refine .inl ⟨by rw [unknown, Bool.and_false], e, ?_⟩
      rw [failed]
      rfl
    · refine .inr ⟨next ++ after, ⟨?_, ?_, ?_⟩, ?_⟩
      · rw [valueAll_append, valueAll_append, evaluated.value, evaluatedAfter.value]
      · rw [areKnown_append, areKnown_append, evaluated.known, evaluatedAfter.known]
      · have fewer := evaluated.fewer
        have fewerAfter := evaluatedAfter.fewer
        rw [blocksIn_append, blocksIn_append]
        omega
      · rw [passedAfter, writeAll_append]
        simp [List.append_assoc]

theorem passEvaluates_nil : PassEvaluates [] := by
  intro rest
  exact .inr ⟨[], ⟨rfl, rfl, Nat.le_refl 0⟩, by simp [writeAll]⟩

theorem passEvaluates_text {cs : List Char} (inert : Inert cs) :
    PassEvaluates [.text cs inert] := by
  intro rest
  refine .inr ⟨[.text cs inert], ⟨rfl, rfl, by simp [blocksIn, Part.blocks]⟩, ?_⟩
  simp [writeAll, Part.write, pass_append_of_inert inert]

mutual

theorem passEvaluates_part : (part : Part) → PassEvaluates [part]
  | .text _ inert => passEvaluates_text inert
  | .block modes children =>
    if none : blocksIn children = 0 then passEvaluates_innermost modes none
    else passEvaluates_outer modes none (pass_writeAll children)
termination_by structural part => part

/-- One pass over written parts evaluates innermost blocks and nothing else. -/
theorem pass_writeAll : (parts : List Part) → PassEvaluates parts
  | [] => passEvaluates_nil
  | part :: parts => passEvaluates_append (passEvaluates_part part) (pass_writeAll parts)
termination_by structural parts => parts

end

/-! ### Pass after pass -/

/-- What the transformation of written parts has to come to: their value if all modes are known, and
a complaint if not. -/
def Expected (parts : List Part) (outcome : Except UnknownMode (List Char)) : Prop :=
  if areKnown parts then outcome = .ok (valueAll parts) else ∃ e, outcome = .error e

theorem settles_writeAll (parts : List Part) :
    ∃ outcome, Settles (writeAll parts) outcome ∧ Expected parts outcome := by
  induction count : blocksIn parts using Nat.strongRecOn generalizing parts with
  | ind count inductionHypothesis =>
    subst count
    have passes := pass_writeAll parts []
    rw [List.append_nil, pass] at passes
    by_cases none : blocksIn parts = 0
    · obtain ⟨inert, same, known⟩ := inert_of_blocksIn_eq_zero none
      have stays := pass_append_of_inert inert []
      rw [List.append_nil, pass] at stays
      refine ⟨_, .stays (stays.trans (congrArg Except.ok (List.append_nil _))), ?_⟩
      rw [Expected, if_pos known, same]
    · rcases passes with ⟨unknown, e, failed⟩ | ⟨next, evaluated, passed⟩
      · refine ⟨_, .fails failed, ?_⟩
        rw [Expected, unknown, if_neg Bool.false_ne_true]
        exact ⟨e, rfl⟩
      · have fewer := evaluated.fewer
        obtain ⟨outcome, settles, expected⟩ := inductionHypothesis _ (by omega) next rfl
        rw [Expected, evaluated.known, evaluated.value] at expected
        refine ⟨outcome, ?_, expected⟩
        -- Passes end when the text stays the same, whether or not the tree does.
        by_cases same : writeAll next = writeAll parts
        · rw [← same]
          exact settles
        · exact .changes (passed.trans (congrArg Except.ok (List.append_nil _))) same settles

/-- The transformation of a text with blocks inside of blocks. If all its modes are known, each
block comes to its body, once the blocks in it have come to theirs, passed through its modes from
left to right, and the text outside of blocks stays as it is. If there is an unknown mode anywhere
in it, the transformation complains. -/
theorem transform_writeAll (parts : List Part) :
    if areKnown parts then transform (writeAll parts) = .ok (valueAll parts)
    else ∃ e, transform (writeAll parts) = .error e := by
  obtain ⟨outcome, settles, expected⟩ := settles_writeAll parts
  rw [transform_eq_iff.mpr settles]
  exact expected

def Part.plain (cs : List Char) (unmarked : '<' ∉ cs) : Part :=
  .text cs (inert_of_not_mem unmarked)

/-- Two blocks side by side in a third one, which is passed through two modes. -/
def sideBySide : List Part :=
  [.plain "-> ".toList (by decide),
    .block ⟨["text-to-html".toList, " quoted-printable ".toList], by simp, by simp, by decide⟩
      [.block ⟨["text-to-html".toList], by simp, by simp, by decide⟩
          [.plain "1\n2".toList (by decide)],
        .plain " = ".toList (by decide),
        .block ⟨["quoted-printable".toList], by simp, by simp, by decide⟩
          [.plain "=".toList (by decide)]]]

example : areKnown sideBySide = true ∧
    transform (writeAll sideBySide) = .ok "-> 1&lt;br /&gt;<br />\n2 =3D =3D3D".toList := by
  constructor
  · rfl
  · cbv

end PromptTree.Block
