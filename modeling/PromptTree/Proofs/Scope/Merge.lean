import PromptTree.Proofs.Stretch
import PromptTree.Scope

/-!
What a scope holds after the entries of a map have been written over it. Main statement: a name has
a text that the entries give it, or they leave it as it was (`get?_merge`).
-/

namespace PromptTree

namespace Entries

/-- An entry of this name has this text. -/
def Gives (entries : Entries) (name text : String) : Prop :=
  ∃ entry ∈ entries, entry.1.shown = name ∧ entry.2.toText = .ok text

/-- No entry has this name. -/
def Leaves (entries : Entries) (name : String) : Prop :=
  ∀ entry ∈ entries, entry.1.shown ≠ name

end Entries

namespace Scope

theorem get?_merge {scope merged : Scope} {entries : Entries}
    (isMerged : scope.merge entries = .ok merged) (name : String) :
    (∃ text, merged.get? name = some text ∧ entries.Gives name text) ∨
      (merged.get? name = scope.get? name ∧ entries.Leaves name) := by
  induction entries generalizing scope with
  | nil =>
    cases isMerged
    exact .inr ⟨rfl, by simp [Entries.Leaves]⟩
  | cons entry rest inductionHypothesis =>
    obtain ⟨key, value⟩ := entry
    obtain ⟨text, isText, isMerged⟩ := except_bind_eq_ok_iff.mp isMerged
    rcases inductionHypothesis isMerged with ⟨later, holds, entry, isEntry, given⟩ | ⟨stays, leaves⟩
    · exact .inl ⟨later, holds, entry, List.mem_cons_of_mem _ isEntry, given⟩
    · rw [get?_write] at stays
      by_cases same : name = key.shown
      · rw [if_pos same] at stays
        exact .inl ⟨text, stays, (key, value), List.mem_cons_self, same.symm, isText⟩
      · rw [if_neg same] at stays
        exact .inr ⟨stays, List.forall_mem_cons.mpr ⟨Ne.symm same, leaves⟩⟩

end Scope

end PromptTree
