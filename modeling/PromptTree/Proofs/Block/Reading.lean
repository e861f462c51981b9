import PromptTree.Proofs.Block.Inert

/-!
Where a block stands in a text. Main statement: a block is read where it is written, if nothing in
it can be taken for another block, and no other block is ever read (`read?_eq_some_iff`).
-/

namespace PromptTree.Block

open Text

/-- A block that can be read where it is written: the text of its modes holds no angle bracket and
is not that of an end mark, and no opening mark begins in its body. -/
structure Simple (b : Block) : Prop where
  modes : ∀ c ∈ b.modes, c ≠ '<' ∧ c ≠ '>'
  notEnd : b.modes ≠ ['e', 'n', 'd']
  body : Inert b.body

def HasBlock (cs : List Char) : Prop :=
  ∃ (before : List Char) (b : Block) (after : List Char),
    cs = before ++ (b.write ++ after) ∧ b.Simple

/-- What is behind a text completes an opening mark at best as another opening mark does. -/
theorem opening_prefix_append_opening {cs rest : List Char} (begins : opening <+: cs ++ rest) :
    opening <+: cs ++ opening := by
  match cs with
  | [] => exact List.prefix_rfl
  | [c] =>
    simp only [opening, List.cons_append, List.cons_prefix_cons] at begins ⊢
    exact ⟨begins.1, by simp⟩
  | [c, d] =>
    simp only [opening, List.cons_append, List.cons_prefix_cons] at begins ⊢
    exact ⟨begins.1, begins.2.1, by simp⟩
  | c :: d :: e :: others =>
    simp only [opening, List.cons_append, List.cons_prefix_cons] at begins ⊢
    exact ⟨begins.1, begins.2.1, begins.2.2.1, List.nil_prefix⟩

theorem after?_opening_of_inert {c : Char} {cs : List Char} (inert : Inert (c :: cs))
    (rest : List Char) : after? opening (c :: (cs ++ rest)) = none :=
  after?_eq_none_iff.mpr fun begins => inert.1 (opening_prefix_append_opening begins)

/-- The body of a block reaches to the first opening mark, whether that is one of an end mark or
not. -/
theorem bodyUntilEnd?_append {body : List Char} (inert : Inert body) (rest : List Char) :
    bodyUntilEnd? (body ++ (opening ++ rest)) =
      (after? endTail rest).map fun after => (body, after) := by
  induction body with
  | nil =>
    have begins : after? opening ('<' :: '<' :: '<' :: rest) = some rest :=
      after?_append opening rest
    change bodyUntilEnd? ('<' :: '<' :: '<' :: rest) = _
    rw [bodyUntilEnd?, begins]
  | cons c body inductionHypothesis =>
    rw [List.cons_append, bodyUntilEnd?, after?_opening_of_inert inert,
      inductionHypothesis inert.2, Option.map_map]
    rfl

theorem inert_of_bodyUntilEnd? {cs body after : List Char}
    (found : bodyUntilEnd? cs = some (body, after)) : Inert body := by
  induction cs generalizing body with
  | nil => cases found
  | cons c cs inductionHypothesis =>
    have whole := append_of_bodyUntilEnd? found
    rw [bodyUntilEnd?] at found
    split at found
    · obtain ⟨_, _, same⟩ := Option.map_eq_some_iff.mp found
      cases same
      trivial
    · next noOpening =>
      obtain ⟨⟨inner, _⟩, foundInner, same⟩ := Option.map_eq_some_iff.mp found
      cases same
      refine ⟨fun begins => ?_, inductionHypothesis foundInner⟩
      rw [after?_eq_none_iff, whole, List.append_assoc, List.append_assoc, ← List.append_assoc]
        at noOpening
      exact noOpening (begins.trans (List.prefix_append _ _))

/-- Only the text `end` between an opening and a closing mark makes them an end mark. -/
theorem after?_endTail {modes : List Char} (plain : ∀ c ∈ modes, c ≠ '<' ∧ c ≠ '>')
    (notEnd : modes ≠ ['e', 'n', 'd']) (rest : List Char) :
    after? endTail (modes ++ (closing ++ rest)) = none := by
  rw [after?_eq_none_iff]
  intro begins
  match modes with
  | [] => simp [endTail, closing] at begins
  | [a] => simp [endTail, closing] at begins
  | [a, b] => simp [endTail, closing] at begins
  | [a, b, c] =>
    simp only [endTail, List.cons_append, List.cons_prefix_cons] at begins
    exact notEnd (by rw [← begins.1, ← begins.2.1, ← begins.2.2.1])
  | a :: b :: c :: d :: others =>
    have noBracket := (plain d (by simp)).2
    simp [endTail, noBracket.symm] at begins

theorem isModeChar_iff {c : Char} : isModeChar c = true ↔ c ≠ '<' ∧ c ≠ '>' := by
  simp [isModeChar]

theorem read?_opening {modes : List Char} (plain : ∀ c ∈ modes, c ≠ '<' ∧ c ≠ '>')
    (notEnd : modes ≠ ['e', 'n', 'd']) (rest : List Char) :
    read? (opening ++ (modes ++ (closing ++ rest))) =
      (bodyUntilEnd? rest).map fun (body, after) => (⟨modes, body⟩, after) := by
  have isMode : ∀ c ∈ modes, isModeChar c = true := fun c isIn => isModeChar_iff.mpr (plain c isIn)
  have taken : (modes ++ (closing ++ rest)).takeWhile isModeChar = modes := by
    rw [List.takeWhile_append_of_pos isMode]
    simp [closing, isModeChar]
  have left : (modes ++ (closing ++ rest)).dropWhile isModeChar = closing ++ rest := by
    rw [List.dropWhile_append_of_pos isMode]
    simp [closing, isModeChar]
  rw [read?, after?_append]
  dsimp only
  rw [after?_endTail plain notEnd, left, after?_append, taken]
  rfl

/-- A block is read in a text if and only if it is written there. -/
theorem read?_eq_some_iff {cs after : List Char} {b : Block} :
    read? cs = some (b, after) ↔ cs = b.write ++ after ∧ b.Simple := by
  constructor
  · intro found
    refine ⟨append_of_read? found, ?_⟩
    rw [read?] at found
    split at found
    · cases found
    · next rest _ =>
      split at found
      · cases found
      · next noEnd =>
        split at found
        · cases found
        · next rest' closed =>
          obtain ⟨⟨body, _⟩, foundBody, same⟩ := Option.map_eq_some_iff.mp found
          cases same
          have isMode : ∀ c ∈ rest.takeWhile isModeChar, isModeChar c = true :=
            List.all_eq_true.mp List.all_takeWhile
          refine ⟨fun c isIn => isModeChar_iff.mp (isMode c isIn), ?_,
            inert_of_bodyUntilEnd? foundBody⟩
          intro (isEnd : rest.takeWhile isModeChar = ['e', 'n', 'd'])
          have cut := List.takeWhile_append_dropWhile (p := isModeChar) (l := rest)
          rw [isEnd, append_of_after? closed] at cut
          have begins : after? endTail rest = some rest' := by
            rw [← cut]
            exact after?_append endTail rest'
          simp [begins] at noEnd
  · rintro ⟨rfl, simple⟩
    have whole : b.write ++ after =
        opening ++ (b.modes ++ (closing ++ (b.body ++ (opening ++ (endTail ++ after))))) := by
      simp [write]
    rw [whole, read?_opening simple.modes simple.notEnd, bodyUntilEnd?_append simple.body,
      after?_append]
    rfl

theorem hasBlock_cons_iff {c : Char} {cs : List Char} :
    HasBlock (c :: cs) ↔ (read? (c :: cs)).isSome ∨ HasBlock cs := by
  constructor
  · rintro ⟨before, b, after, whole, simple⟩
    cases before with
    | nil =>
      rw [read?_eq_some_iff.mpr ⟨whole, simple⟩]
      exact .inl rfl
    | cons d before =>
      cases whole
      exact .inr ⟨before, b, after, rfl, simple⟩
  · rintro (found | ⟨before, b, after, rfl, simple⟩)
    · obtain ⟨⟨b, after⟩, found⟩ := Option.isSome_iff_exists.mp found
      obtain ⟨whole, simple⟩ := read?_eq_some_iff.mp found
      exact ⟨[], b, after, whole, simple⟩
    · exact ⟨c :: before, b, after, rfl, simple⟩

theorem not_hasBlock_nil : ¬ HasBlock [] := by
  rintro ⟨before, b, after, whole, _⟩
  simp [write, opening] at whole

end PromptTree.Block
