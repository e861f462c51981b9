import PromptTree.Proofs.Stretch
import PromptTree.Proofs.Value.Maps
import PromptTree.Proofs.Value.Wordless
import PromptTree.Value.JsonReader

/-!
What comes out of a JSON text: words, numbers, texts, and lists and maps of them, where the keys of a
map are distinct texts (`isJson_of_read`). All of these have a text in a scope (`IsJson.not_wordless`).
-/

namespace PromptTree

namespace Entries

/-- The keys of the entries are texts, each once. -/
structure IsNamed (entries : Entries) : Prop where
  areTexts : ∀ entry ∈ entries, ∃ name, entry.1 = .text name
  distinct : (entries.map Prod.fst).Nodup

variable {entries : Entries}

theorem isNamed_nil : IsNamed [] := ⟨nofun, List.nodup_nil⟩

theorem IsNamed.insert (named : IsNamed entries) (name : String) (value : Value) :
    IsNamed (insert (.text name) value entries) := by
  constructor
  · intro entry isEntry
    rcases mem_insert isEntry with old | ⟨_, isText | same⟩
    · exact named.areTexts entry old
    · exact ⟨name, isText⟩
    · exact ⟨name, Value.same_text_right.mp same⟩
  · rw [map_fst_insert]
    split
    · next new =>
      rw [find?_eq_none_iff] at new
      rw [List.nodup_append]
      refine ⟨named.distinct, List.pairwise_singleton _ _, ?_⟩
      rintro key isKey last isLast rfl
      have different := new key isKey
      rw [List.mem_singleton.mp isLast, Value.same_text_right.mpr rfl] at different
      cases different
    · exact named.distinct

/-- Different keys have different names. -/
theorem IsNamed.nodup_names (named : IsNamed entries) :
    (entries.map fun entry => entry.1.shown).Nodup := by
  have distinct := named.distinct
  rw [List.Nodup, List.pairwise_map] at distinct ⊢
  refine distinct.imp_of_mem fun isFirst isSecond different sameName => different ?_
  obtain ⟨first, isText⟩ := named.areTexts _ isFirst
  obtain ⟨second, isTextToo⟩ := named.areTexts _ isSecond
  rw [isText, isTextToo] at sameName ⊢
  exact congrArg Value.text sameName

end Entries

namespace Value

/-- A value that a JSON text can hold. -/
inductive IsJson : Value → Prop where
  | null : IsJson .null
  | bool (b : Bool) : IsJson (.bool b)
  | int (n : Int) : IsJson (.int n)
  | float (x : Binary64) : IsJson (.float x)
  | text (s : String) : IsJson (.text s)
  | list {items : List Value} : (∀ item ∈ items, IsJson item) → IsJson (.list items)
  | map {entries : Entries} :
    entries.IsNamed → (∀ entry ∈ entries, IsJson entry.2) → IsJson (.map entries)

theorem IsJson.not_wordless {v : Value} (isJson : IsJson v) : ¬ v.Wordless := by
  intro wordless
  induction wordless with
  | date | moment | bytes | set => cases isJson
  | item isItem _ inductionHypothesis =>
    cases isJson with
    | list items => exact inductionHypothesis (items _ isItem)
  | key isEntry noText =>
    cases isJson with
    | map named entries =>
      obtain ⟨name, isText⟩ := named.areTexts _ isEntry
      rw [isText] at noText
      cases noText
  | entry isEntry _ inductionHypothesis =>
    cases isJson with
    | map named entries => exact inductionHypothesis (entries _ isEntry)

end Value

namespace Json

open Value (IsJson)

theorem isJson_names : ∀ entry ∈ names, IsJson entry.2 := by
  simp only [names, List.forall_mem_cons]
  exact ⟨.null, .bool _, .bool _, .float _, .float _, .float _, nofun⟩

theorem isJson_of_readNumber {c behind : Cursor} {v : Value} (isRead : readNumber c = .ok (v, behind)) :
    IsJson v := by
  unfold readNumber at isRead
  extract_lets sign whole at isRead
  split at isRead
  · cases isRead
  · obtain ⟨rfl, _⟩ := Prod.mk.inj (Except.ok.inj isRead)
    change IsJson (if _ then .int _ else .float _)
    split
    · exact .int _
    · exact .float _

theorem isJson_of_readSimple {c behind : Cursor} {v : Value} (isRead : readSimple c = .ok (v, behind)) :
    IsJson v := by
  unfold readSimple at isRead
  split at isRead
  · next name value found =>
    cases isRead
    exact isJson_names _ (List.mem_of_find?_eq_some found)
  · exact isJson_of_readNumber isRead

def IsEntry (entry : Value × Value) : Prop :=
  (∃ name, entry.1 = .text name) ∧ IsJson entry.2

theorem isJson_insert {key value : Value} {entries : Entries} (isJson : IsJson (.map entries))
    (isEntry : IsEntry (key, value)) : IsJson (.map (Entries.insert key value entries)) := by
  obtain ⟨⟨name, rfl⟩, isValue⟩ := isEntry
  cases isJson with
  | map named values =>
    refine .map (named.insert name value) fun entry isEntry => ?_
    rcases Entries.mem_insert isEntry with old | ⟨isNew, _⟩
    · exact values entry old
    · exact isNew ▸ isValue

theorem isJson_overlay {pairs base : Entries} (areEntries : ∀ pair ∈ pairs, IsEntry pair)
    (isJson : IsJson (.map base)) : IsJson (.map (pairs.overlay base)) := by
  induction pairs generalizing base with
  | nil => exact isJson
  | cons pair pairs inductionHypothesis =>
    rw [List.forall_mem_cons] at areEntries
    exact inductionHypothesis areEntries.2 (isJson_insert isJson areEntries.1)

theorem isJson_ofList {pairs : Entries} (areEntries : ∀ pair ∈ pairs, IsEntry pair) :
    IsJson (.map (Entries.ofList pairs)) :=
  isJson_overlay areEntries (.map Entries.isNamed_nil nofun)

theorem map_eq_ok {ε α γ : Type} {first : Except ε α} {f : α → γ} {c : γ}
    (mapped : first.map f = .ok c) : ∃ a, first = .ok a ∧ f a = c := by
  cases first with
  | error e => cases mapped
  | ok a => exact ⟨a, rfl, Except.ok.inj mapped⟩

section

/-! What one more step reads, if fewer steps read such values. -/

variable {bound : Nat}
  (values : ∀ {c behind v}, readValue bound c = .ok (v, behind) → IsJson v)
  (lists : ∀ {c behind items}, readItems bound c = .ok (items, behind) → ∀ item ∈ items, IsJson item)
  (maps : ∀ {c behind entries}, readEntries bound c = .ok (entries, behind) →
    ∀ entry ∈ entries, IsEntry entry)
  {c behind : Cursor}

include lists maps in
theorem isJson_of_readValue {v : Value} (isRead : readValue (bound + 1) c = .ok (v, behind)) :
    IsJson v := by
  rw [readValue] at isRead
  split at isRead
  · obtain ⟨_, _, isValue⟩ := map_eq_ok isRead
    cases isValue
    exact .text _
  · dsimp only at isRead
    split at isRead
    · cases isRead
      exact .list nofun
    · obtain ⟨_, areItems, isValue⟩ := map_eq_ok isRead
      cases isValue
      exact .list (lists areItems)
  · dsimp only at isRead
    split at isRead
    · cases isRead
      exact .map Entries.isNamed_nil nofun
    · obtain ⟨_, areEntries, isValue⟩ := map_eq_ok isRead
      cases isValue
      exact isJson_ofList (maps areEntries)
  · exact isJson_of_readSimple isRead

include values lists in
theorem isJson_of_readItems {items : List Value}
    (isRead : readItems (bound + 1) c = .ok (items, behind)) : ∀ item ∈ items, IsJson item := by
  rw [readItems] at isRead
  obtain ⟨⟨item, next⟩, isItem, isRead⟩ := except_bind_eq_ok_iff.mp isRead
  dsimp only at isRead
  split at isRead
  · cases isRead
    exact List.forall_mem_singleton.mpr (values isItem)
  · obtain ⟨⟨more, last⟩, areItems, isRead⟩ := except_bind_eq_ok_iff.mp isRead
    cases isRead
    exact List.forall_mem_cons.mpr ⟨values isItem, lists areItems⟩
  · cases isRead

include values maps in
theorem isEntry_of_readEntries {entries : List (Value × Value)}
    (isRead : readEntries (bound + 1) c = .ok (entries, behind)) :
    ∀ entry ∈ entries, IsEntry entry := by
  rw [readEntries] at isRead
  split at isRead
  · obtain ⟨⟨key, next⟩, _, isRead⟩ := except_bind_eq_ok_iff.mp isRead
    dsimp only at isRead
    split at isRead
    · obtain ⟨⟨item, last⟩, isItem, isRead⟩ := except_bind_eq_ok_iff.mp isRead
      have isEntry : IsEntry (.text (.ofList key), item) := ⟨⟨_, rfl⟩, values isItem⟩
      dsimp only at isRead
      split at isRead
      · cases isRead
        exact List.forall_mem_singleton.mpr isEntry
      · obtain ⟨⟨more, last⟩, areEntries, isRead⟩ := except_bind_eq_ok_iff.mp isRead
        cases isRead
        exact List.forall_mem_cons.mpr ⟨isEntry, maps areEntries⟩
      · cases isRead
    · cases isRead
  · cases isRead

end

theorem isJson_of_steps (bound : Nat) :
    (∀ {c behind v}, readValue bound c = .ok (v, behind) → IsJson v) ∧
      (∀ {c behind items}, readItems bound c = .ok (items, behind) →
        ∀ item ∈ items, IsJson item) ∧
        ∀ {c behind entries}, readEntries bound c = .ok (entries, behind) →
          ∀ entry ∈ entries, IsEntry entry := by
  induction bound with
  | zero => exact ⟨nofun, nofun, nofun⟩
  | succ bound inductionHypothesis =>
    obtain ⟨values, lists, maps⟩ := inductionHypothesis
    exact ⟨isJson_of_readValue lists maps, isJson_of_readItems values lists,
      isEntry_of_readEntries values maps⟩

/-- What a JSON text holds is such a value. -/
theorem isJson_of_read {text : String} {v : Value} (isRead : read text = .ok v) : IsJson v := by
  unfold read at isRead
  dsimp only at isRead
  split at isRead
  · cases isRead
  · obtain ⟨⟨value, c⟩, isValue, isRead⟩ := except_bind_eq_ok_iff.mp isRead
    dsimp only at isRead
    split at isRead
    · cases isRead
      exact (isJson_of_steps _).1 isValue
    · cases isRead

end Json

end PromptTree
