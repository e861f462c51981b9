import PromptTree.Proofs.Scope.Names
import PromptTree.Proofs.Template.Expansion

/-!
Templates whose references hold references. Such a template is a tree: its parts are literals and
references, and a reference has parts again. Main statements: the pieces of the template as it is
written are those of the tree, at any depth (`read_writeAll`); and it is resolved to what the tree
comes to from the inside out, where a reference that names nothing stands as it was written, with
everything in it (`resolve_nested`).
-/

namespace PromptTree.Template

variable {β : Type}

/-- A part of a template: a literal, or a reference with the parts of its body. -/
inductive Nested where
  | literal (text : List Char)
  | reference (body : List Nested)

namespace Nested

mutual

def write : Nested → List Char
  | .literal text => text
  | .reference body => '$' :: '{' :: (writeAll body ++ ['}'])
termination_by structural part => part

def writeAll : List Nested → List Char
  | [] => []
  | part :: parts => part.write ++ writeAll parts
termination_by structural parts => parts

end

/-- The character means nothing in the body of a reference. -/
def isBare (c : Char) : Bool :=
  c ≠ '$' && c ≠ '{' && c ≠ '}' && c ≠ '|' && c ≠ '@'

mutual

/-- The part can stand in the body of a reference: its literals are bare, and no body in it begins
as a capture does. -/
def isInner : Nested → Bool
  | .literal text => text.all isBare
  | .reference body => (writeAll body).head? ≠ some '>' && areInner body
termination_by structural part => part

def areInner : List Nested → Bool
  | [] => true
  | part :: parts => part.isInner && areInner parts
termination_by structural parts => parts

end

def isOuter : Nested → Bool
  | .literal text => text.all (· ≠ '$')
  | .reference body => isInner (.reference body)

mutual

def pieces : Nested → List Piece
  | .literal text => text.map .char
  | .reference body => [.reference (piecesAll body) none]
termination_by structural part => part

def piecesAll : List Nested → List Piece
  | [] => []
  | part :: parts => part.pieces ++ piecesAll parts
termination_by structural parts => parts

end

mutual

/-- What a part comes to from the inside out: a reference has the text of the name that its body
comes to, or stands as it is written if that is no name. -/
def value (scope : Scope) : Nested → List Char
  | .literal text => text
  | .reference body =>
    ((scope.get? (.ofList (valueAll scope body))).map String.toList).getD (write (.reference body))
termination_by structural part => part

def valueAll (scope : Scope) : List Nested → List Char
  | [] => []
  | part :: parts => part.value scope ++ valueAll scope parts
termination_by structural parts => parts

end

theorem bare_iff {c : Char} :
    isBare c = true ↔ c ≠ '$' ∧ c ≠ '{' ∧ c ≠ '}' ∧ c ≠ '|' ∧ c ≠ '@' := by
  simp [isBare, and_assoc]

theorem isOuter_of_isInner {part : Nested} (inner : part.isInner = true) : part.isOuter = true := by
  cases part with
  | literal text =>
    rw [isInner, List.all_eq_true] at inner
    rw [isOuter, List.all_eq_true]
    intro c isChar
    simpa using (bare_iff.mp (inner c isChar)).1
  | reference body => exact inner

theorem areInner_iff {parts : List Nested} :
    areInner parts = true ↔ ∀ part ∈ parts, part.isInner = true := by
  induction parts with
  | nil => simp [areInner]
  | cons part parts inductionHypothesis => simp [areInner, inductionHypothesis]

/-! ### Reading what is written -/

mutual

/-- A part closes all braces that it opens, so the brace looked for is behind it. -/
theorem closing?_write : (part : Nested) → part.isInner = true → ∀ depth rest,
    Piece.closing? (depth + 1) (part.write ++ rest) =
      (Piece.closing? (depth + 1) rest).map fun (body, after) => (part.write ++ body, after)
  | .literal text, bare, depth, rest => by
    rw [isInner, List.all_eq_true] at bare
    apply closing?_append_of_noBraces
    intro c isChar
    obtain ⟨_, noOpening, noClosing, _⟩ := bare_iff.mp (bare c isChar)
    exact ⟨noOpening, noClosing⟩
  | .reference body, inner, depth, rest => by
    rw [isInner, Bool.and_eq_true] at inner
    have whole : write (.reference body) ++ rest =
        '$' :: '{' :: (writeAll body ++ '}' :: rest) := by simp [write]
    rw [whole, Piece.closing?, Piece.closing?, closing?_writeAll body inner.2 (depth + 1),
      Piece.closing?]
    · simp [Function.comp_def, write]
    · decide
    · decide
termination_by structural part => part

theorem closing?_writeAll : (parts : List Nested) → areInner parts = true → ∀ depth rest,
    Piece.closing? (depth + 1) (writeAll parts ++ rest) =
      (Piece.closing? (depth + 1) rest).map fun (body, after) => (writeAll parts ++ body, after)
  | [], _, depth, rest => by simp [writeAll]
  | part :: parts, inner, depth, rest => by
    rw [areInner, Bool.and_eq_true] at inner
    rw [writeAll, List.append_assoc, closing?_write part inner.1, closing?_writeAll parts inner.2,
      Option.map_map]
    simp [Function.comp_def]
termination_by structural parts => parts

end

theorem capture?_writeAll {parts : List Nested} (outer : ∀ part ∈ parts, part.isOuter = true) :
    Piece.capture? (writeAll parts) = none := by
  induction parts with
  | nil => rfl
  | cons part parts inductionHypothesis =>
    rw [List.forall_mem_cons] at outer
    cases part with
    | literal text =>
      cases text with
      | nil => exact inductionHypothesis outer.2
      | cons c text =>
        have unmarked := outer.1
        rw [isOuter, List.all_cons, Bool.and_eq_true, decide_eq_true_eq] at unmarked
        exact capture?_of_ne unmarked.1 _
    | reference body =>
      have noCapture := outer.1
      rw [isOuter, isInner, Bool.and_eq_true, decide_eq_true_eq] at noCapture
      simpa [writeAll, write] using capture?_of_noCapture noCapture.1 (writeAll parts)

theorem read_reference {body : List Nested} (inner : areInner body = true) {rest : List Char}
    (noCapture : Piece.capture? rest = none) :
    Piece.read (write (.reference body) ++ rest) =
      .reference (Piece.read (writeAll body)) none :: Piece.read rest := by
  have closed : Piece.closing? 1 (writeAll body ++ '}' :: rest) = some (writeAll body, rest) := by
    simpa [Piece.closing?] using closing?_writeAll body inner 0 ('}' :: rest)
  have whole : write (.reference body) ++ rest =
      '$' :: '{' :: (writeAll body ++ '}' :: rest) := by simp [write]
  rw [whole, read_of_closing closed, takeCapture_of_none noCapture]

mutual

theorem read_write : (part : Nested) → part.isOuter = true → ∀ rest, Piece.capture? rest = none →
    Piece.read (part.write ++ rest) = part.pieces ++ Piece.read rest
  | .literal text, unmarked, rest, _ => by
    apply read_append_of_unmarked
    rw [isOuter, List.all_eq_true] at unmarked
    intro isMark
    simpa using unmarked _ isMark
  | .reference body, inner, rest, noCapture => by
    rw [isOuter, isInner, Bool.and_eq_true] at inner
    rw [read_reference inner.2 noCapture, read_writeAll body]
    · rfl
    · intro part isPart
      exact isOuter_of_isInner (areInner_iff.mp inner.2 part isPart)
termination_by structural part => part

/-- The pieces of a template as it is written are those of its parts, at any depth. -/
theorem read_writeAll : (parts : List Nested) → (∀ part ∈ parts, part.isOuter = true) →
    Piece.read (writeAll parts) = piecesAll parts
  | [], _ => by rw [writeAll, Piece.read, piecesAll]
  | part :: parts, outer => by
    rw [List.forall_mem_cons] at outer
    rw [writeAll, read_write part outer.1 _ (capture?_writeAll outer.2),
      read_writeAll parts outer.2, piecesAll]
termination_by structural parts => parts

end

theorem rawAll_piecesAll {parts : List Nested} (outer : ∀ part ∈ parts, part.isOuter = true) :
    Piece.rawAll (piecesAll parts) = writeAll parts := by
  rw [← read_writeAll parts outer, Piece.rawAll_read]

/-! ### One pass -/

/-- The texts of a scope mean nothing in a template, wherever they are put. -/
def Bland (scope : Scope) : Prop :=
  ∀ entry ∈ scope.entries, ∀ c ∈ entry.2.toList, c ≠ '$' ∧ c ≠ '|' ∧ c ≠ '@'

instance (scope : Scope) : Decidable (Bland scope) :=
  decidable_of_iff
    ((scope.entries.all fun entry =>
      entry.2.toList.all fun c => c ≠ '$' && c ≠ '|' && c ≠ '@') = true) <| by
    simp only [List.all_eq_true, Bool.and_eq_true, decide_eq_true_eq, and_assoc, Bland]

mutual

theorem plain_of_mem_write : (part : Nested) → part.isInner = true → ∀ c ∈ part.write,
    c ≠ '|' ∧ c ≠ '@'
  | .literal _, bare, c, isChar => by
    rw [isInner, List.all_eq_true] at bare
    exact (bare_iff.mp (bare c isChar)).2.2.2
  | .reference body, inner, c, isChar => by
    rw [isInner, Bool.and_eq_true] at inner
    simp only [write, List.mem_cons, List.mem_append, List.not_mem_nil, or_false] at isChar
    rcases isChar with rfl | rfl | isChar | rfl
    · decide
    · decide
    · exact plain_of_mem_writeAll body inner.2 c isChar
    · decide
termination_by structural part => part

theorem plain_of_mem_writeAll : (parts : List Nested) → areInner parts = true →
    ∀ c ∈ writeAll parts, c ≠ '|' ∧ c ≠ '@'
  | part :: parts, inner, c, isChar => by
    rw [areInner, Bool.and_eq_true] at inner
    rcases List.mem_append.mp isChar with isChar | isChar
    · exact plain_of_mem_write part inner.1 c isChar
    · exact plain_of_mem_writeAll parts inner.2 c isChar
termination_by structural parts => parts

end

section

variable {scope : Scope}

theorem plain_of_mem_valueAll (bland : Bland scope) {parts : List Nested}
    (inner : areInner parts = true) : ∀ c ∈ valueAll scope parts, c ≠ '|' ∧ c ≠ '@' := by
  induction parts with
  | nil => simp [valueAll]
  | cons part parts inductionHypothesis =>
    have written := plain_of_mem_write part
    rw [areInner, Bool.and_eq_true] at inner
    intro c isChar
    rcases List.mem_append.mp isChar with isChar | isChar
    · cases part with
      | literal text => exact written inner.1 c isChar
      | reference body =>
        rw [value] at isChar
        cases found : scope.get? (.ofList (valueAll scope body)) with
        | none =>
          rw [found] at isChar
          exact written inner.1 c isChar
        | some text =>
          rw [found] at isChar
          exact (bland _ (Scope.get?_eq_some_iff.mp found) c isChar).2
    · exact inductionHypothesis inner.2 c isChar

mutual

theorem result_pieces (sources : Sources β) (bland : Bland scope) : (part : Nested) →
    part.isOuter = true → ∀ r : Resolution β, r.bindings = scope →
      ∃ s, result (Piece.evalAll sources part.pieces) r = (.ok (part.value scope), s) ∧
        s.bindings = scope
  | .literal text, _, r, bound => ⟨r, result_evalAll_map_char sources text r, bound⟩
  | .reference body, inner, r, bound => by
    rw [isOuter, isInner, Bool.and_eq_true, decide_eq_true_eq] at inner
    have outer : ∀ part ∈ body, part.isOuter = true :=
      fun part isPart => isOuter_of_isInner (areInner_iff.mp inner.2 part isPart)
    have written := rawAll_piecesAll outer
    have raw : (Piece.reference (piecesAll body) none).raw = write (.reference body) := by
      simp [Piece.raw, Piece.rawCapture, written, write]
    have noCapture : ¬ (Piece.rawAll (piecesAll body)).head? = some '>' := by
      rw [written]
      exact inner.1
    have command : Command.ofBody (valueAll scope body) = .lookup (valueAll scope body) := by
      have plain := plain_of_mem_valueAll bland inner.2
      apply ofBody_of_noFunction
      · exact fun isBar => (plain _ isBar).1 rfl
      · exact fun isHead => (plain _ (List.mem_of_head? isHead)).2 rfl
    obtain ⟨s, bodyEnded, bodyBound⟩ := result_piecesAll sources bland body outer r bound
    obtain ⟨t, performed, same⟩ :=
      result_perform_lookup sources (write (.reference body)) (valueAll scope body) s
    rw [bodyBound, ← command, ← raw] at performed
    obtain ⟨u, ended, sameToo⟩ := result_eval_reference sources noCapture bodyEnded performed
    refine ⟨u, ?_, sameToo.trans (same.trans bodyBound)⟩
    rw [pieces, ended, raw, value]
termination_by structural part => part

theorem result_piecesAll (sources : Sources β) (bland : Bland scope) : (parts : List Nested) →
    (∀ part ∈ parts, part.isOuter = true) → ∀ r : Resolution β, r.bindings = scope →
      ∃ s, result (Piece.evalAll sources (piecesAll parts)) r = (.ok (valueAll scope parts), s) ∧
        s.bindings = scope
  | [], _, r, bound => ⟨r, rfl, bound⟩
  | part :: parts, outer, r, bound => by
    rw [List.forall_mem_cons] at outer
    obtain ⟨s, firstEnded, firstBound⟩ := result_pieces sources bland part outer.1 r bound
    obtain ⟨t, restEnded, restBound⟩ := result_piecesAll sources bland parts outer.2 s firstBound
    exact ⟨t, result_evalAll_append sources firstEnded restEnded, restBound⟩
termination_by structural parts => parts

end

/-- One pass brings a template to its value. -/
theorem result_pass_writeAll (sources : Sources β) (bland : Bland scope) {parts : List Nested}
    (outer : ∀ part ∈ parts, part.isOuter = true) {r : Resolution β} (bound : r.bindings = scope) :
    ∃ s, result (pass sources (writeAll parts)) r = (.ok (valueAll scope parts), s) ∧
      s.bindings = scope := by
  unfold pass
  rw [read_writeAll parts outer]
  exact result_piecesAll sources bland parts outer r bound

end

/-! ### The value is settled -/

section

variable (scope : Scope)

def settled : Nested → Nested
  | .literal text => .literal text
  | .reference body =>
    match scope.get? (.ofList (valueAll scope body)) with
    | some text => .literal text.toList
    | none => .reference body

theorem write_settled (part : Nested) : (part.settled scope).write = part.value scope := by
  cases part with
  | literal text => rfl
  | reference body =>
    rw [settled, value]
    cases scope.get? (.ofList (valueAll scope body)) <;> rfl

theorem value_settled (part : Nested) : (part.settled scope).value scope = part.value scope := by
  cases part with
  | literal text => rfl
  | reference body =>
    cases found : scope.get? (.ofList (valueAll scope body)) with
    | none => simp only [settled, found]
    | some text => simp only [settled, found, value, Option.map_some, Option.getD_some]

theorem isOuter_settled (bland : Bland scope) {part : Nested} (outer : part.isOuter = true) :
    (part.settled scope).isOuter = true := by
  cases part with
  | literal text => exact outer
  | reference body =>
    cases found : scope.get? (.ofList (valueAll scope body)) with
    | none => simpa only [settled, found] using outer
    | some text =>
      simp only [settled, found, isOuter, List.all_eq_true, decide_eq_true_eq]
      exact fun c isChar => (bland _ (Scope.get?_eq_some_iff.mp found) c isChar).1

theorem writeAll_map_settled (parts : List Nested) :
    writeAll (parts.map (settled scope)) = valueAll scope parts := by
  induction parts with
  | nil => rfl
  | cons part parts inductionHypothesis =>
    rw [List.map_cons, writeAll, write_settled, inductionHypothesis, valueAll]

theorem valueAll_map_settled (parts : List Nested) :
    valueAll scope (parts.map (settled scope)) = valueAll scope parts := by
  induction parts with
  | nil => rfl
  | cons part parts inductionHypothesis =>
    rw [List.map_cons, valueAll, value_settled, inductionHypothesis, valueAll]

/-- A second pass leaves the value as it is. -/
theorem result_pass_valueAll (sources : Sources β) (bland : Bland scope) {parts : List Nested}
    (outer : ∀ part ∈ parts, part.isOuter = true) {r : Resolution β} (bound : r.bindings = scope) :
    ∃ s, result (pass sources (valueAll scope parts)) r = (.ok (valueAll scope parts), s) := by
  have outerToo : ∀ part ∈ parts.map (settled scope), part.isOuter = true := by
    intro part isSettled
    obtain ⟨part, isPart, rfl⟩ := List.mem_map.mp isSettled
    exact isOuter_settled scope bland (outer part isPart)
  obtain ⟨s, passed, _⟩ := result_pass_writeAll sources bland outerToo bound
  rw [writeAll_map_settled, valueAll_map_settled] at passed
  exact ⟨s, passed⟩

end

end Nested

open Nested in
/-- A nested template is resolved to its value from the inside out, at any depth. -/
theorem resolve_nested (sources : Sources β) {scope : Scope} (bland : Bland scope)
    {parts : List Nested} (outer : ∀ part ∈ parts, part.isOuter = true) {passes : Int}
    (enough : 2 ≤ passes) (b : β) :
    (resolve sources passes (String.ofList (writeAll parts)) scope b).outcome =
      .ok (String.ofList (valueAll scope parts)) := by
  obtain ⟨more, isPasses⟩ : ∃ more, passes.toNat = more + 2 := ⟨passes.toNat - 2, by omega⟩
  let start : Resolution β := ⟨scope, [], b⟩
  have bound : start.bindings = scope := rfl
  obtain ⟨s, passed, same⟩ := result_pass_writeAll sources bland outer bound
  obtain ⟨t, passedAgain⟩ := result_pass_valueAll scope sources bland outer same
  obtain ⟨u, ended⟩ := result_settle_of_two_passes sources passed passedAgain more
  rw [outcome_resolve, String.toList_ofList, isPasses, ended]

/-- A name that is found through two others, and a reference that comes to no name. -/
def kennel : List Nested :=
  [.reference [.reference [.reference [.literal "pointer".toList]]], .literal " dog, ".toList,
    .reference [.literal "no ".toList, .reference [.literal "pointer".toList]]]

theorem resolve_nested_kennel :
    let scope := Scope.ofPairs [("pointer", "size"), ("size", "mood"), ("mood", "lazy")]
    (Nested.Bland scope ∧ (∀ part ∈ kennel, part.isOuter = true) ∧ 2 ≤ defaultPasses) ∧
      let written := Nested.writeAll kennel
      written = "${${${pointer}}} dog, ${no ${pointer}}".toList ∧
        (resolve stillSources defaultPasses (String.ofList written) scope ()).outcome =
          .ok "lazy dog, ${no ${pointer}}" := by
  intro scope
  have bland : Nested.Bland scope := by decide +kernel
  have outer : ∀ part ∈ kennel, part.isOuter = true := by decide
  have enough : 2 ≤ defaultPasses := by decide
  refine ⟨⟨bland, outer, enough⟩, by decide, ?_⟩
  rw [resolve_nested stillSources bland outer enough ()]
  decide

end PromptTree.Template
