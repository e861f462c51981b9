import PromptTree.Proofs.Value.Keys
import PromptTree.Proofs.Value.Sameness

/-!
Maps as lists of entries with distinct keys. Main statements: what is found after an insertion
(`find?_insert`), a removal (`find?_without`) and in a map written over another one
(`find?_overlay`); and the order of entries shows nowhere else: insertions of different keys commute
up to it (`insert_comm`), and a look-up does not see it (`find?_perm`).
-/

namespace PromptTree.Entries

variable {α : Type} {key other : Value} {value : α} {entries : List (Value × α)}

def IsKeyed (entries : List (Value × α)) : Prop :=
  (entries.map Prod.fst).Pairwise fun first second => first.same second = false

instance : Decidable (IsKeyed entries) :=
  inferInstanceAs (Decidable (List.Pairwise _ _))

theorem isKeyed_nil : IsKeyed ([] : List (Value × α)) :=
  List.Pairwise.nil

theorem isKeyed_cons_iff {entry : Value × α} :
    IsKeyed (entry :: entries) ↔
      (∀ key ∈ entries.map Prod.fst, entry.1.same key = false) ∧ IsKeyed entries :=
  List.pairwise_cons

theorem IsKeyed.eq_or_different (keyed : IsKeyed entries) {first second : Value × α}
    (isFirst : first ∈ entries) (isSecond : second ∈ entries) :
    first = second ∨ first.1.same second.1 = false := by
  induction entries with
  | nil => cases isFirst
  | cons entry rest inductionHypothesis =>
    obtain ⟨different, restKeyed⟩ := isKeyed_cons_iff.mp keyed
    rcases List.mem_cons.mp isFirst with rfl | firstLater <;>
      rcases List.mem_cons.mp isSecond with rfl | secondLater
    · exact .inl rfl
    · exact .inr (different _ (List.mem_map_of_mem secondLater))
    · rw [Value.same_comm]
      exact .inr (different _ (List.mem_map_of_mem firstLater))
    · exact inductionHypothesis restKeyed firstLater secondLater

theorem IsKeyed.perm {others : List (Value × α)} (keyed : IsKeyed entries)
    (perm : entries.Perm others) : IsKeyed others := by
  refine ((perm.map Prod.fst).pairwise_iff ?_).mp keyed
  intro first second different
  rwa [Value.same_comm]

/-! ### What is found -/

theorem find?_eq_none_iff :
    find? key entries = none ↔ ∀ k ∈ entries.map Prod.fst, k.same key = false := by
  induction entries with
  | nil => simp [find?]
  | cons entry rest inductionHypothesis =>
    rw [find?, List.map_cons, List.forall_mem_cons, ← inductionHypothesis]
    split <;> simp_all

theorem map_fst_insert (key : Value) (value : α) (entries : List (Value × α)) :
    (insert key value entries).map Prod.fst =
      if find? key entries = none then entries.map Prod.fst ++ [key] else entries.map Prod.fst := by
  induction entries with
  | nil => rfl
  | cons entry rest inductionHypothesis =>
    rw [insert, find?]
    by_cases same : entry.1.same key = true
    · rw [if_pos same, if_pos same, if_neg (by simp)]
      rfl
    · rw [if_neg same, if_neg same, List.map_cons, inductionHypothesis]
      split <;> rfl

/-- A map stays one when an entry is inserted. -/
theorem IsKeyed.insert (keyed : IsKeyed entries) (key : Value) (value : α) :
    IsKeyed (insert key value entries) := by
  unfold IsKeyed
  rw [map_fst_insert]
  split
  · next new =>
    rw [find?_eq_none_iff] at new
    rw [List.pairwise_append]
    refine ⟨keyed, List.pairwise_singleton _ _, ?_⟩
    intro k isKey last isLast
    rw [List.mem_singleton.mp isLast]
    exact new k isKey
  · exact keyed

/-- Of two keys that differ at most one is the same as a third, so it does not matter which is tried
first. -/
theorem ite_same_comm {first second : Value} (differ : ¬ first.same second = true)
    (one two rest : Option α) :
    (if first.same other = true then one else if second.same other = true then two else rest) =
      if second.same other = true then two else if first.same other = true then one else rest := by
  by_cases isFirst : first.same other = true
  · have notSecond := Value.not_same_of_same differ isFirst
    rw [if_pos isFirst, if_pos isFirst, if_neg notSecond]
  · rw [if_neg isFirst, if_neg isFirst]

theorem find?_insert (key other : Value) (value : α) (entries : List (Value × α)) :
    find? other (insert key value entries) =
      if key.same other = true then some value else find? other entries := by
  induction entries with
  | nil => rfl
  | cons entry rest inductionHypothesis =>
    rw [insert]
    by_cases same : entry.1.same key = true
    · rw [if_pos same, find?, find?, Value.same_congr same]
      split <;> rfl
    · rw [if_neg same, find?, find?, inductionHypothesis]
      exact ite_same_comm same _ _ _

theorem exists_mem_insert (key : Value) (value : α) (entries : List (Value × α)) :
    ∃ k, (k, value) ∈ insert key value entries ∧ (k = key ∨ k.same key = true) := by
  induction entries with
  | nil => exact ⟨key, List.mem_cons_self, .inl rfl⟩
  | cons entry rest inductionHypothesis =>
    rw [insert]
    by_cases same : entry.1.same key = true
    · rw [if_pos same]
      exact ⟨entry.1, List.mem_cons_self, .inr same⟩
    · rw [if_neg same]
      obtain ⟨k, isEntry, isKey⟩ := inductionHypothesis
      exact ⟨k, List.mem_cons_of_mem _ isEntry, isKey⟩

theorem mem_insert_of_mem {entry : Value × α} (isEntry : entry ∈ entries)
    (different : entry.1.same key = false) (value : α) : entry ∈ insert key value entries := by
  induction entries with
  | nil => cases isEntry
  | cons first rest inductionHypothesis =>
    rw [insert]
    rcases List.mem_cons.mp isEntry with rfl | later
    · rw [if_neg (by simp [different])]
      exact List.mem_cons_self
    · split
      · exact List.mem_cons_of_mem _ later
      · exact List.mem_cons_of_mem _ (inductionHypothesis later)

theorem find?_without (key other : Value) (entries : List (Value × α)) :
    find? other (without key entries) =
      if key.same other = true then none else find? other entries := by
  induction entries with
  | nil => simp [without, find?]
  | cons entry rest inductionHypothesis =>
    unfold without at inductionHypothesis ⊢
    by_cases same : entry.1.same key = true
    · rw [List.filter_cons_of_neg (by simpa using same), inductionHypothesis, find?,
        Value.same_congr same]
      split <;> rfl
    · rw [List.filter_cons_of_pos (by simpa using same), find?, find?, inductionHypothesis]
      exact ite_same_comm same _ _ _

/-! ### The order of entries -/

/-- The first two keys differ. -/
theorem IsKeyed.firstTwo {first second : Value × α} (keyed : IsKeyed (second :: first :: entries)) :
    ¬ second.1.same first.1 = true := by
  rw [(isKeyed_cons_iff.mp keyed).1 first.1 (by simp)]
  decide

theorem find?_perm {others : List (Value × α)} (keyed : IsKeyed entries)
    (perm : entries.Perm others) (key : Value) : find? key entries = find? key others := by
  induction perm with
  | nil => rfl
  | cons entry _ inductionHypothesis =>
    rw [find?, find?, inductionHypothesis (isKeyed_cons_iff.mp keyed).2]
  | swap first second rest =>
    simp only [find?]
    exact ite_same_comm keyed.firstTwo _ _ _
  | trans perm _ first second => exact (first keyed).trans (second (keyed.perm perm))

theorem insert_perm {others : List (Value × α)} (keyed : IsKeyed entries)
    (perm : entries.Perm others) (key : Value) (value : α) :
    (insert key value entries).Perm (insert key value others) := by
  induction perm with
  | nil => exact .refl _
  | cons entry perm inductionHypothesis =>
    rw [insert, insert]
    split
    · exact perm.cons _
    · exact (inductionHypothesis (isKeyed_cons_iff.mp keyed).2).cons _
  | swap first second rest =>
    simp only [insert]
    by_cases isSecond : second.1.same key = true
    · have notFirst := Value.not_same_of_same keyed.firstTwo isSecond
      rw [if_pos isSecond, if_neg notFirst, if_pos isSecond]
      exact .swap _ _ _
    · rw [if_neg isSecond, if_neg isSecond]
      split <;> exact .swap _ _ _
  | trans perm _ first second => exact (first keyed).trans (second (keyed.perm perm))

/-- The order in which different keys are inserted shows only in the order of the entries. -/
theorem insert_comm (different : key.same other = false) (value otherValue : α)
    (entries : List (Value × α)) :
    (insert key value (insert other otherValue entries)).Perm
      (insert other otherValue (insert key value entries)) := by
  have differ : ¬ key.same other = true := by rw [different]; decide
  have differToo : ¬ other.same key = true := by rwa [Value.same_comm]
  induction entries with
  | nil =>
    simp only [insert, if_neg differ, if_neg differToo]
    exact .swap _ _ _
  | cons entry rest inductionHypothesis =>
    by_cases isKey : entry.1.same key = true
    · have notOther : ¬ entry.1.same other = true := by
        rwa [Value.same_congr isKey]
      simp [insert, isKey, notOther]
    · by_cases isOther : entry.1.same other = true
      · simp [insert, isKey, isOther]
      · simp only [insert, if_neg isKey, if_neg isOther]
        exact inductionHypothesis.cons _

/-! ### A map over another one -/

theorem overlay_cons (entry : Value × Value) (rest base : Entries) :
    overlay (entry :: rest) base = overlay rest (insert entry.1 entry.2 base) := rfl

theorem IsKeyed.overlay {entries base : Entries} (keyed : IsKeyed entries)
    (baseKeyed : IsKeyed base) : IsKeyed (overlay entries base) := by
  induction entries generalizing base with
  | nil => exact baseKeyed
  | cons entry rest inductionHypothesis =>
    exact inductionHypothesis (isKeyed_cons_iff.mp keyed).2 (baseKeyed.insert _ _)

/-- A key has in a map that is written over another one what it has there, and else what it has in
the other one. -/
theorem find?_overlay {entries : Entries} (keyed : IsKeyed entries) (base : Entries) (key : Value) :
    find? key (overlay entries base) = (find? key entries).or (find? key base) := by
  induction entries generalizing base with
  | nil => rfl
  | cons entry rest inductionHypothesis =>
    obtain ⟨different, keyed⟩ := isKeyed_cons_iff.mp keyed
    rw [overlay_cons, inductionHypothesis keyed, find?_insert, find?]
    by_cases same : entry.1.same key = true
    · have notLater : find? key rest = none := by
        rw [find?_eq_none_iff]
        intro k isKey
        have differ : ¬ entry.1.same k = true := by
          rw [different k isKey]
          decide
        simpa using Value.not_same_of_same differ same
      rw [if_pos same, if_pos same, notLater]
      rfl
    · rw [if_neg same, if_neg same]

end PromptTree.Entries
