/-!
Cutting a text at a mark.
-/

namespace PromptTree.Text

/-- The stretches between the occurrences of `mark`; there is always at least one. -/
def splitOn (mark : Char) : List Char → List (List Char)
  | [] => [[]]
  | c :: rest =>
    if c = mark then [] :: splitOn mark rest
    else match splitOn mark rest with
      | [] => [[c]]
      | piece :: pieces => (c :: piece) :: pieces

def joinWith (mark : Char) : List (List Char) → List Char
  | [] => []
  | [piece] => piece
  | piece :: pieces => piece ++ mark :: joinWith mark pieces

/-- The text before the first occurrence of `mark`, and the text after it when there is one. -/
def cutAt (mark : Char) : List Char → List Char × Option (List Char)
  | [] => ([], none)
  | c :: rest =>
    if c = mark then ([], some rest)
    else
      let (head, tail) := cutAt mark rest
      (c :: head, tail)

def after? : (lead text : List Char) → Option (List Char)
  | [], text => some text
  | _ :: _, [] => none
  | l :: lead, c :: text => if l = c then after? lead text else none

def around? (needle : List Char) : List Char → Option (List Char × List Char)
  | [] => if needle.isEmpty then some ([], []) else none
  | c :: rest =>
    match after? needle (c :: rest) with
    | some tail => some ([], tail)
    | none => (around? needle rest).map fun (head, tail) => (c :: head, tail)

def contains (needle text : List Char) : Bool :=
  (around? needle text).isSome

theorem splitOn_of_not_mem {mark : Char} {cs : List Char} (h : mark ∉ cs) : splitOn mark cs = [cs] := by
  induction cs with
  | nil => rfl
  | cons c rest ih =>
    rw [List.mem_cons, not_or] at h
    rw [splitOn, if_neg (fun isMark => h.1 isMark.symm), ih h.2]

theorem mem_joinWith {mark c : Char} {pieces : List (List Char)} (isIn : c ∈ joinWith mark pieces) :
    c = mark ∨ ∃ piece ∈ pieces, c ∈ piece := by
  induction pieces with
  | nil => cases isIn
  | cons piece pieces ih =>
    cases pieces with
    | nil => exact .inr ⟨piece, List.mem_cons_self, isIn⟩
    | cons next pieces =>
      rcases List.mem_append.mp isIn with isIn | isIn
      · exact .inr ⟨piece, List.mem_cons_self, isIn⟩
      · rcases List.mem_cons.mp isIn with isMark | isIn
        · exact .inl isMark
        · rcases ih isIn with isMark | ⟨other, isPiece, isIn⟩
          · exact .inl isMark
          · exact .inr ⟨other, List.mem_cons_of_mem piece isPiece, isIn⟩

theorem splitOn_append {mark : Char} {piece : List Char} (unmarked : mark ∉ piece)
    (rest : List Char) : splitOn mark (piece ++ mark :: rest) = piece :: splitOn mark rest := by
  induction piece with
  | nil => simp [splitOn]
  | cons c piece ih =>
    rw [List.mem_cons, not_or] at unmarked
    rw [List.cons_append, splitOn, if_neg (fun isMark => unmarked.1 isMark.symm), ih unmarked.2]

theorem splitOn_joinWith {mark : Char} {pieces : List (List Char)} (some : pieces ≠ [])
    (unmarked : ∀ piece ∈ pieces, mark ∉ piece) : splitOn mark (joinWith mark pieces) = pieces := by
  induction pieces with
  | nil => exact absurd rfl some
  | cons piece pieces ih =>
    rw [List.forall_mem_cons] at unmarked
    cases pieces with
    | nil => exact splitOn_of_not_mem unmarked.1
    | cons next pieces =>
      rw [joinWith, splitOn_append unmarked.1, ih (List.cons_ne_nil next pieces) unmarked.2]
      simp

theorem append_of_after? {lead text rest : List Char} (h : after? lead text = some rest) :
    text = lead ++ rest := by
  induction lead generalizing text with
  | nil => simpa [after?] using h
  | cons l lead ih =>
    cases text with
    | nil => simp [after?] at h
    | cons c text =>
      by_cases hc : l = c
      · simp [after?, hc] at h
        simp [hc, ih h]
      · simp [after?, hc] at h

@[simp] theorem after?_append (lead rest : List Char) : after? lead (lead ++ rest) = some rest := by
  induction lead with
  | nil => rfl
  | cons l lead ih => simp [after?, ih]

theorem after?_eq_none_iff {lead text : List Char} : after? lead text = none ↔ ¬ lead <+: text := by
  constructor
  · rintro none ⟨rest, rfl⟩
    rw [after?_append] at none
    cases none
  · intro noPrefix
    cases after : after? lead text with
    | none => rfl
    | some rest => exact absurd ⟨rest, (append_of_after? after).symm⟩ noPrefix

theorem append_of_cutAt_some {mark : Char} {cs head tail : List Char}
    (h : cutAt mark cs = (head, some tail)) : cs = head ++ mark :: tail := by
  induction cs generalizing head with
  | nil => simp [cutAt] at h
  | cons c rest ih =>
    by_cases hc : c = mark
    · simp [cutAt, hc] at h
      obtain ⟨rfl, rfl⟩ := h
      simp [hc]
    · simp only [cutAt, hc, if_false, Prod.mk.injEq] at h
      obtain ⟨rfl, ht⟩ := h
      simp [← ih (Prod.ext rfl ht)]

theorem cutAt_append {mark : Char} {head : List Char} (unmarked : mark ∉ head) (rest : List Char) :
    cutAt mark (head ++ mark :: rest) = (head, some rest) := by
  induction head with
  | nil => simp [cutAt]
  | cons c head inductionHypothesis =>
    rw [List.mem_cons, not_or] at unmarked
    rw [List.cons_append, cutAt, if_neg (fun isMark => unmarked.1 isMark.symm),
      inductionHypothesis unmarked.2]

theorem cutAt_of_not_mem {mark : Char} {cs : List Char} (unmarked : mark ∉ cs) :
    cutAt mark cs = (cs, none) := by
  induction cs with
  | nil => rfl
  | cons c cs inductionHypothesis =>
    rw [List.mem_cons, not_or] at unmarked
    rw [cutAt, if_neg (fun isMark => unmarked.1 isMark.symm), inductionHypothesis unmarked.2]

theorem mem_or_cutAt (mark : Char) (cs : List Char) :
    (mark ∉ cs ∧ cutAt mark cs = (cs, none)) ∨
      ∃ head rest, mark ∉ head ∧ cs = head ++ mark :: rest ∧ cutAt mark cs = (head, some rest) := by
  by_cases isIn : mark ∈ cs
  · obtain ⟨head, rest, rfl, unmarked⟩ := List.eq_append_cons_of_mem isIn
    exact .inr ⟨head, rest, unmarked, rfl, cutAt_append unmarked rest⟩
  · exact .inl ⟨isIn, cutAt_of_not_mem isIn⟩

end PromptTree.Text
