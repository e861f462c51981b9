import PromptTree.Proofs.Stretch
import PromptTree.Scope

/-!
Values without a text. A date, a moment, bytes and a set have none, and neither has a list or map that
holds one of them at any depth, or a map with one of them as a key. Main statements: these are all
(`toText_eq_error_iff`), and a map of variables makes a scope unless one of its values is such a value
(`ofValues_eq_error_iff`).
-/

namespace PromptTree

namespace Value

/-- A value with no text. -/
inductive Wordless : Value → Prop where
  | date (d : Calendar.Date) : Wordless (.date d)
  | moment (m : Calendar.Moment) : Wordless (.moment m)
  | bytes (content : List UInt8) : Wordless (.bytes content)
  | set (items : List Value) : Wordless (.set items)
  | item {items : List Value} {item : Value} : item ∈ items → Wordless item → Wordless (.list items)
  | key {entries : Entries} {entry : Value × Value} :
    entry ∈ entries → Json.keyText? entry.1 = none → Wordless (.map entries)
  | entry {entries : Entries} {entry : Value × Value} :
    entry ∈ entries → Wordless entry.2 → Wordless (.map entries)

theorem wordless_list_iff {items : List Value} :
    Wordless (.list items) ↔ ∃ item ∈ items, Wordless item := by
  constructor
  · rintro ⟨⟩
    exact ⟨_, ‹_›, ‹_›⟩
  · rintro ⟨item, isItem, wordless⟩
    exact .item isItem wordless

theorem wordless_map_iff {entries : Entries} :
    Wordless (.map entries) ↔
      ∃ entry ∈ entries, Json.keyText? entry.1 = none ∨ Wordless entry.2 := by
  constructor
  · rintro (_ | _ | _ | _ | _ | ⟨isEntry, noText⟩ | ⟨isEntry, wordless⟩)
    · exact ⟨_, isEntry, .inl noText⟩
    · exact ⟨_, isEntry, .inr wordless⟩
  · rintro ⟨entry, isEntry, noText | wordless⟩
    · exact .key isEntry noText
    · exact .entry isEntry wordless

mutual

theorem write?_eq_none_iff (style : Json.Style) (level : Nat) :
    (v : Value) → (Json.write? style level v = none ↔ Wordless v)
  | .null | .bool _ | .int _ | .float _ | .text _ => by
    constructor <;> rintro ⟨⟩
  | .list items => by
    rw [wordless_list_iff, ← writeItems?_eq_none_iff style (level + 1) items, Json.write?]
    cases Json.writeItems? style (level + 1) items <;> simp
  | .map entries => by
    rw [wordless_map_iff, ← writeEntries?_eq_none_iff style (level + 1) entries, Json.write?]
    cases Json.writeEntries? style (level + 1) entries <;> simp
  | .date d => iff_of_true rfl (.date d)
  | .moment m => iff_of_true rfl (.moment m)
  | .bytes content => iff_of_true rfl (.bytes content)
  | .set items => iff_of_true rfl (.set items)
termination_by structural v => v

theorem writeItems?_eq_none_iff (style : Json.Style) (level : Nat) :
    (items : List Value) →
      (Json.writeItems? style level items = none ↔ ∃ item ∈ items, Wordless item)
  | [] => by simp [Json.writeItems?]
  | item :: items => by
    simp only [List.mem_cons, exists_eq_or_imp]
    rw [← write?_eq_none_iff style level item, ← writeItems?_eq_none_iff style level items,
      Json.writeItems?]
    cases Json.write? style level item <;> cases Json.writeItems? style level items <;> simp
termination_by structural items => items

theorem writeEntries?_eq_none_iff (style : Json.Style) (level : Nat) :
    (entries : List (Value × Value)) →
      (Json.writeEntries? style level entries = none ↔
        ∃ entry ∈ entries, Json.keyText? entry.1 = none ∨ Wordless entry.2)
  | [] => by simp [Json.writeEntries?]
  | (k, v) :: entries => by
    simp only [List.mem_cons, exists_eq_or_imp]
    rw [← write?_eq_none_iff style level v, ← writeEntries?_eq_none_iff style level entries,
      Json.writeEntries?]
    cases Json.keyText? k <;> cases Json.write? style level v <;>
      cases Json.writeEntries? style level entries <;> simp
termination_by structural entries => entries

end

theorem toText_eq_error_iff {v : Value} {e : TextError} : v.toText = .error e ↔ v.Wordless := by
  cases v with
  | null | bool | text | int | float => constructor <;> rintro ⟨⟩
  | _ =>
    rw [← write?_eq_none_iff Json.plain 0]
    simp only [toText, toJson?]
    split <;> simp_all

end Value

namespace Scope

theorem merge_eq_error_iff {scope : Scope} {entries : Entries} {e : TextError} :
    scope.merge entries = .error e ↔ ∃ entry ∈ entries, entry.2.Wordless := by
  induction entries generalizing scope with
  | nil => simp [merge]
  | cons entry entries inductionHypothesis =>
    rw [merge, except_bind_eq_error_iff, Value.toText_eq_error_iff]
    simp only [inductionHypothesis, List.mem_cons, exists_eq_or_imp]
    constructor
    · rintro (wordless | ⟨_, _, later⟩)
      · exact .inl wordless
      · exact .inr later
    · rintro (wordless | later)
      · exact .inl wordless
      · cases read : entry.2.toText with
        | error e => exact .inl (Value.toText_eq_error_iff.mp read)
        | ok text => exact .inr ⟨text, rfl, later⟩

theorem ofValues_eq_error_iff {entries : Entries} {e : TextError} :
    ofValues entries = .error e ↔ ∃ entry ∈ entries, entry.2.Wordless :=
  merge_eq_error_iff

end Scope

end PromptTree
