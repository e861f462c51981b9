import PromptTree.Value.Basic

/-!
Maps whose keys may be any simple values, looked up under texts. A text is the same key as no other
value, so a look-up under a text sees what was last written under that text and nothing else
(`find?_insert_self`, `find?_insert_of_ne`).
-/

namespace PromptTree

theorem Value.same_text_right {v : Value} {s : String} : v.same (.text s) = true ↔ v = .text s := by
  cases v <;> simp [same, toInt?]

theorem Value.same_text_left {v : Value} {s : String} :
    (Value.text s).same v = true ↔ v = .text s := by
  cases v with
  | text t =>
    change (s == t) = true ↔ Value.text t = .text s
    rw [beq_iff_eq, Value.text.injEq, eq_comm]
  | _ => simp [same, toInt?]

namespace Entries

variable {α : Type} {key : Value} {value : α} {entries : List (Value × α)}

theorem exists_mem_of_find? (found : find? key entries = some value) :
    ∃ k, (k, value) ∈ entries ∧ k.same key = true := by
  induction entries with
  | nil => cases found
  | cons entry rest inductionHypothesis =>
    obtain ⟨k, v⟩ := entry
    rw [find?] at found
    split at found
    · next same =>
      cases found
      exact ⟨k, List.mem_cons_self, same⟩
    · obtain ⟨k, isEntry, same⟩ := inductionHypothesis found
      exact ⟨k, List.mem_cons_of_mem _ isEntry, same⟩

theorem mem_of_find?_text {name : String} (found : find? (.text name) entries = some value) :
    (.text name, value) ∈ entries := by
  obtain ⟨k, isEntry, same⟩ := exists_mem_of_find? found
  obtain rfl := Value.same_text_right.mp same
  exact isEntry

/-! ### Insertion -/

theorem insert_of_find?_eq_none (new : find? key entries = none) :
    insert key value entries = entries ++ [(key, value)] := by
  induction entries with
  | nil => rfl
  | cons entry rest inductionHypothesis =>
    obtain ⟨k, v⟩ := entry
    rw [find?] at new
    split at new
    · cases new
    · next other => rw [insert, if_neg other, inductionHypothesis new, List.cons_append]

theorem find?_insert_self (name : String) (value : α) (entries : List (Value × α)) :
    find? (.text name) (insert (.text name) value entries) = some value := by
  induction entries with
  | nil => simp [insert, find?, Value.same]
  | cons entry rest inductionHypothesis =>
    obtain ⟨k, v⟩ := entry
    rw [insert]
    split
    · next same => rw [find?, if_pos same]
    · next other => rw [find?, if_neg other, inductionHypothesis]

theorem find?_insert_of_ne {name : String} (other : key ≠ .text name) (value : α)
    (entries : List (Value × α)) :
    find? (.text name) (insert key value entries) = find? (.text name) entries := by
  induction entries with
  | nil => simp [insert, find?, Value.same_text_right, other]
  | cons entry rest inductionHypothesis =>
    obtain ⟨k, v⟩ := entry
    rw [insert]
    split
    · next same =>
      have otherKey : ¬ k.same (.text name) = true := by
        intro isText
        obtain rfl := Value.same_text_right.mp isText
        exact other (Value.same_text_left.mp same)
      rw [find?, if_neg otherKey, find?, if_neg otherKey]
    · rw [find?, find?, inductionHypothesis]

theorem mem_insert {entry : Value × α} (isEntry : entry ∈ insert key value entries) :
    entry ∈ entries ∨ entry.2 = value ∧ (entry.1 = key ∨ entry.1.same key = true) := by
  induction entries with
  | nil =>
    obtain rfl := List.mem_singleton.mp isEntry
    exact .inr ⟨rfl, .inl rfl⟩
  | cons first rest inductionHypothesis =>
    obtain ⟨k, v⟩ := first
    rw [insert] at isEntry
    split at isEntry
    · next same =>
      rcases List.mem_cons.mp isEntry with rfl | later
      · exact .inr ⟨rfl, .inr same⟩
      · exact .inl (List.mem_cons_of_mem _ later)
    · rcases List.mem_cons.mp isEntry with rfl | later
      · exact .inl List.mem_cons_self
      · exact (inductionHypothesis later).imp_left (List.mem_cons_of_mem _)

/-! ### Removal -/

theorem mem_without_iff {entry : Value × α} :
    entry ∈ without key entries ↔ entry ∈ entries ∧ entry.1.same key = false := by
  simp [without]

end Entries

end PromptTree
