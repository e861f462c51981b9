import PromptTree.Block
import PromptTree.Proofs.Text.Sparse

/-!
Texts in which no block can begin. A text is inert if no opening mark begins in it, also not one
that what follows would complete. Main statement: what a transform makes of an inert text is inert
(`inert_apply`), so no block appears where another one has been replaced.
-/

namespace PromptTree.Block

open Text

/-- No opening mark begins in the text, also not one that what follows would complete. -/
def Inert : List Char → Prop
  | [] => True
  | c :: cs => ¬ opening <+: c :: cs ++ opening ∧ Inert cs

theorem inert_iff_sparse {cs : List Char} : Inert cs ↔ Sparse '<' 0 cs := by
  induction cs with
  | nil => exact iff_of_true trivial .nil
  | cons c cs inductionHypothesis =>
    rw [Inert, inductionHypothesis]
    by_cases isMark : c = '<'
    · subst isMark
      rw [sparse_mark_cons_iff]
      match cs with
      | [] =>
        have none : ¬ Sparse '<' 1 [] := by rintro ⟨⟩
        simp [opening, none]
      | [d] =>
        by_cases second : d = '<'
        · subst second
          have none : ¬ Sparse '<' 2 [] := by rintro ⟨⟩
          simp [opening, sparse_mark_cons_iff, none]
        · simp [opening, sparse_cons_iff_of_ne second, eq_comm, second]
      | d :: e :: rest =>
        by_cases second : d = '<'
        · subst second
          by_cases third : e = '<'
          · subst third
            simp [opening, sparse_mark_cons_iff]
          · simp [opening, sparse_mark_cons_iff, sparse_cons_iff_of_ne third, eq_comm, third]
        · simp [opening, sparse_cons_iff_of_ne second, eq_comm, second]
    · have begins : ¬ opening <+: c :: cs ++ opening := by
        simp [opening, eq_comm, isMark]
      rw [sparse_cons_iff_of_ne isMark]
      exact and_iff_right begins

theorem inert_append {first second : List Char} (left : Inert first) (right : Inert second) :
    Inert (first ++ second) :=
  inert_iff_sparse.mpr (sparse_append (inert_iff_sparse.mp left) (inert_iff_sparse.mp right))

theorem inert_of_not_mem {cs : List Char} (unmarked : '<' ∉ cs) : Inert cs :=
  inert_iff_sparse.mpr (sparse_of_not_mem unmarked)

/-- What a transform makes of an inert text is inert. -/
theorem inert_apply (transform : Transform) {cs : List Char} (inert : Inert cs) :
    Inert (transform.apply cs) := by
  cases transform with
  | textToHtml => exact inert_iff_sparse.mpr (Markup.sparse_ofText cs)
  | quotedPrintable =>
    exact inert_iff_sparse.mpr (QuotedPrintable.sparse_ofText (inert_iff_sparse.mp inert))

theorem inert_pipe {modes : List (List Char)} {body value : List Char} (inert : Inert body)
    (piped : pipe modes body = .ok value) : Inert value := by
  induction modes generalizing body with
  | nil =>
    cases piped
    exact inert
  | cons mode modes inductionHypothesis =>
    rw [pipe] at piped
    split at piped
    · exact inductionHypothesis (inert_apply _ inert) piped
    · cases piped

end PromptTree.Block
