import PromptTree.Proofs.Scope.Names
import PromptTree.Proofs.Value.Wordless

/-!
Scopes told apart by what they hold: the same names in the same order, with the same texts, are the same
scope (`ext_get?`), also after both are written over another one (`writeAll_entries_inj`). A map of
values that have texts is written over a scope as the pairs of its names and texts
(`merge_eq_writeAll`).
-/

namespace PromptTree.Scope

/-! ### Scopes by their names and texts -/

theorem ext_get? {scope other : Scope} (names : scope.names = other.names)
    (texts : ∀ name ∈ scope.names, scope.get? name = other.get? name) : scope = other := by
  have found {scope : Scope} {entry : String × String} (isEntry : entry ∈ scope.entries) :
      scope.get? entry.1 = some entry.2 := get?_eq_some_iff.mpr isEntry
  unfold Scope.names at names texts
  apply Scope.ext
  apply List.ext_getElem
  · have sameLength := congrArg List.length names
    rwa [List.length_map, List.length_map] at sameLength
  · intro i within withinOther
    have sameName : scope.entries[i].1 = other.entries[i].1 := by
      have atIndex := congrArg (·[i]?) names
      simpa [within, withinOther] using atIndex
    have isEntry : scope.entries[i] ∈ scope.entries := List.getElem_mem within
    have isEntryToo : other.entries[i] ∈ other.entries := List.getElem_mem withinOther
    have sameText := texts _ (List.mem_map_of_mem isEntry)
    rw [found isEntry, sameName, found isEntryToo] at sameText
    exact Prod.ext sameName (Option.some.inj sameText)

/-- What pairs write under a name does not depend on the scope that they are written over. -/
theorem get?_writeAll_congr (scope other : Scope) {name : String} {pairs : List (String × String)}
    (isName : name ∈ pairs.map Prod.fst) :
    (scope.writeAll pairs).get? name = (other.writeAll pairs).get? name := by
  induction pairs generalizing scope other with
  | nil => cases isName
  | cons pair pairs inductionHypothesis =>
    change ((scope.write pair.1 pair.2).writeAll pairs).get? name =
      ((other.write pair.1 pair.2).writeAll pairs).get? name
    by_cases later : name ∈ pairs.map Prod.fst
    · exact inductionHypothesis _ _ later
    · have isPair : name = pair.1 := (List.mem_cons.mp isName).resolve_right later
      rw [get?_writeAll_of_not_mem later, get?_writeAll_of_not_mem later, get?_write, get?_write,
        if_pos isPair, if_pos isPair]

theorem names_writeAll_congr {scope other : Scope} (names : scope.names = other.names)
    (pairs : List (String × String)) :
    (scope.writeAll pairs).names = (other.writeAll pairs).names := by
  induction pairs generalizing scope other with
  | nil => exact names
  | cons pair pairs inductionHypothesis =>
    apply inductionHypothesis
    rw [names_write, names_write, names]

/-- Scopes that are written over the same one can be told apart there. -/
theorem writeAll_entries_inj (base : Scope) {scope other : Scope} (names : scope.names = other.names) :
    base.writeAll scope.entries = base.writeAll other.entries ↔ scope = other := by
  have written {scope : Scope} {name : String} (isName : name ∈ scope.names) :
      (base.writeAll scope.entries).get? name = scope.get? name := by
    rw [get?_writeAll_congr base empty isName]
    exact congrArg (get? · name) (ofPairs_entries scope)
  constructor
  · intro same
    refine ext_get? names fun name isName => ?_
    rw [← written isName, same, written (names ▸ isName)]
  · rintro rfl
    rfl

/-! ### Maps of values -/

/-- The entries of a map as pairs, each value by a text for it. -/
def pairsOf (textOf : Value → String) (entries : Entries) : List (String × String) :=
  entries.map fun (key, v) => (key.shown, textOf v)

def textOf (v : Value) : String :=
  v.toText.toOption.getD ""

theorem merge_eq_writeAll {entries : Entries} (haveText : ∀ entry ∈ entries, ¬ entry.2.Wordless)
    (scope : Scope) : scope.merge entries = .ok (scope.writeAll (pairsOf textOf entries)) := by
  induction entries generalizing scope with
  | nil => rfl
  | cons entry entries inductionHypothesis =>
    obtain ⟨key, v⟩ := entry
    rw [List.forall_mem_cons] at haveText
    cases isText : v.toText with
    | error e => exact absurd (Value.toText_eq_error_iff.mp isText) haveText.1
    | ok text =>
      simp only [merge, isText, bind, Except.bind]
      rw [inductionHypothesis haveText.2]
      simp only [pairsOf, textOf, writeAll, List.map_cons, List.foldl_cons, isText, Except.toOption,
        Option.getD_some]

theorem merge_toValues (base scope : Scope) :
    base.merge scope.toValues = .ok (base.writeAll scope.entries) := by
  have haveText : ∀ entry ∈ scope.toValues, ¬ entry.2.Wordless := by
    intro entry isEntry
    obtain ⟨pair, _, rfl⟩ := List.mem_map.mp isEntry
    exact nofun
  rw [merge_eq_writeAll haveText, pairsOf, toValues, List.map_map]
  exact congrArg (fun pairs => Except.ok (base.writeAll pairs)) (List.map_id _)

variable {entries : Entries} {words : List (String × String)}

theorem names_pairsOf (distinct : (entries.map (·.1.shown)).Nodup) (textOf : Value → String) :
    (ofPairs (pairsOf textOf entries)).names = entries.map (·.1.shown) := by
  have keys : (pairsOf textOf entries).map Prod.fst = entries.map (·.1.shown) := List.map_map
  rw [names_ofPairs (keys ▸ distinct), keys]

theorem get?_pairsOf (distinct : (entries.map (·.1.shown)).Nodup) (textOf : Value → String)
    {entry : Value × Value} (isEntry : entry ∈ entries) :
    (ofPairs (pairsOf textOf entries)).get? entry.1.shown = some (textOf entry.2) := by
  have keys : (pairsOf textOf entries).map Prod.fst = entries.map (·.1.shown) := List.map_map
  apply get?_writeAll_of_mem _ (keys ▸ distinct)
  exact List.mem_map_of_mem (f := fun (key, v) => (key.shown, textOf v)) isEntry

/-- Two ways of writing the values of a map come to the same, under words that are written over them,
exactly if they agree on every value that no word replaces. -/
theorem pairsOf_eq_iff (distinct : (entries.map (·.1.shown)).Nodup) (textOf textOf' : Value → String) :
    (ofPairs (pairsOf textOf entries)).writeAll words =
        (ofPairs (pairsOf textOf' entries)).writeAll words ↔
      ∀ entry ∈ entries, entry.1.shown ∉ words.map Prod.fst → textOf entry.2 = textOf' entry.2 := by
  constructor
  · intro same entry isEntry noWord
    have sameText := congrArg (·.get? entry.1.shown) same
    rw [get?_writeAll_of_not_mem noWord, get?_writeAll_of_not_mem noWord,
      get?_pairsOf distinct _ isEntry, get?_pairsOf distinct _ isEntry] at sameText
    exact Option.some.inj sameText
  · intro agree
    have sameNames := (names_pairsOf distinct textOf).trans (names_pairsOf distinct textOf').symm
    apply ext_get? (names_writeAll_congr sameNames words)
    intro name isName
    by_cases isWord : name ∈ words.map Prod.fst
    · exact get?_writeAll_congr _ _ isWord
    · have isKey := (mem_names_writeAll_iff.mp isName).resolve_right isWord
      rw [names_pairsOf distinct] at isKey
      obtain ⟨entry, isEntry, rfl⟩ := List.mem_map.mp isKey
      rw [get?_writeAll_of_not_mem isWord, get?_writeAll_of_not_mem isWord,
        get?_pairsOf distinct _ isEntry, get?_pairsOf distinct _ isEntry, agree entry isEntry isWord]

end PromptTree.Scope
