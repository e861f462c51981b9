import Mathlib.Data.List.Perm.Subperm
import PromptTree.Scope

/-!
The names of a scope. A text that is written under a name takes the place of the name's old one, or
else comes last; so whatever is written over a scope, its names stay the first ones, in their order
(`names_prefix_writeAll`, `names_prefix_merge`). A scope is what its entries make
(`ofPairs_entries`), and pairs come to the same over a scope if they are first written into one of
their own (`writeAll_ofPairs`). If their names are distinct, their order shows only in the order of
the names that are new (`get?_writeAll_perm`, `names_writeAll`).
-/

namespace PromptTree.Scope

theorem names_prefix_write (scope : Scope) (name text : String) :
    scope.names <+: (scope.write name text).names := by
  rw [names_write]
  split
  · exact List.prefix_rfl
  · exact List.prefix_append _ _

theorem mem_names_write (scope : Scope) (name text : String) :
    name ∈ (scope.write name text).names := by
  rw [names_write]
  split
  · assumption
  · simp

theorem names_prefix_writeAll (scope : Scope) (pairs : List (String × String)) :
    scope.names <+: (scope.writeAll pairs).names := by
  induction pairs generalizing scope with
  | nil => exact List.prefix_rfl
  | cons pair pairs inductionHypothesis =>
    exact (names_prefix_write scope pair.1 pair.2).trans (inductionHypothesis _)

theorem mem_names_writeAll (scope : Scope) {pairs : List (String × String)}
    {pair : String × String} (isPair : pair ∈ pairs) :
    pair.1 ∈ (scope.writeAll pairs).names := by
  induction pairs generalizing scope with
  | nil => cases isPair
  | cons first pairs inductionHypothesis =>
    rcases List.mem_cons.mp isPair with rfl | later
    · exact (names_prefix_writeAll _ pairs).subset (mem_names_write scope _ _)
    · exact inductionHypothesis _ later

theorem mem_names_writeAll_iff {scope : Scope} {pairs : List (String × String)} {name : String} :
    name ∈ (scope.writeAll pairs).names ↔ name ∈ scope.names ∨ name ∈ pairs.map Prod.fst := by
  induction pairs generalizing scope with
  | nil => simp [writeAll]
  | cons pair pairs inductionHypothesis =>
    change name ∈ ((scope.write pair.1 pair.2).writeAll pairs).names ↔ _
    rw [inductionHypothesis, names_write, List.map_cons, List.mem_cons]
    split <;> grind

theorem names_prefix_merge {scope merged : Scope} {entries : Entries}
    (isMerged : scope.merge entries = .ok merged) : scope.names <+: merged.names := by
  induction entries generalizing scope with
  | nil =>
    cases isMerged
    exact List.prefix_rfl
  | cons entry entries inductionHypothesis =>
    obtain ⟨key, value⟩ := entry
    simp only [merge] at isMerged
    cases read : value.toText with
    | error e =>
      rw [read] at isMerged
      cases isMerged
    | ok text =>
      rw [read] at isMerged
      exact (names_prefix_write scope _ text).trans (inductionHypothesis isMerged)

/-! ### Scopes made of pairs -/

theorem writeEntries_of_new {name text : String} {entries : List (String × String)}
    (new : name ∉ entries.map Prod.fst) :
    writeEntries name text entries = entries ++ [(name, text)] := by
  induction entries with
  | nil => rfl
  | cons entry rest inductionHypothesis =>
    rw [List.map_cons, List.mem_cons, not_or] at new
    rw [writeEntries, if_neg (Ne.symm new.1), inductionHypothesis new.2, List.cons_append]

theorem entries_writeAll_of_new {scope : Scope} {pairs : List (String × String)}
    (new : (scope.names ++ pairs.map Prod.fst).Nodup) :
    (scope.writeAll pairs).entries = scope.entries ++ pairs := by
  induction pairs generalizing scope with
  | nil => simp [writeAll]
  | cons pair pairs inductionHypothesis =>
    have absent : pair.1 ∉ scope.names := fun present =>
      (List.nodup_append.mp new).2.2 _ present _ (by simp) rfl
    have written : (scope.write pair.1 pair.2).entries = scope.entries ++ [pair] := by
      rw [entries_write, writeEntries_of_new absent]
    have names : (scope.write pair.1 pair.2).names = scope.names ++ [pair.1] := by
      rw [names_write, if_neg absent]
    change ((scope.write pair.1 pair.2).writeAll pairs).entries = _
    rw [inductionHypothesis, written, List.append_assoc, List.singleton_append]
    rw [names, List.append_assoc, List.singleton_append]
    exact new

theorem entries_ofPairs {pairs : List (String × String)} (nodup : (pairs.map Prod.fst).Nodup) :
    (ofPairs pairs).entries = pairs := by
  have new : (empty.names ++ pairs.map Prod.fst).Nodup := by simpa [names, empty]
  simpa [ofPairs, empty] using entries_writeAll_of_new new

theorem names_ofPairs {pairs : List (String × String)} (nodup : (pairs.map Prod.fst).Nodup) :
    (ofPairs pairs).names = pairs.map Prod.fst := by
  rw [names, entries_ofPairs nodup]

/-- A scope has fewer entries than the pairs that it is made of if a name comes twice. -/
theorem length_ofPairs_lt_iff {pairs : List (String × String)} :
    (ofPairs pairs).entries.length < pairs.length ↔ ¬ (pairs.map Prod.fst).Nodup := by
  have fewer : (ofPairs pairs).names.Subperm (pairs.map Prod.fst) := by
    apply List.subperm_of_subset (ofPairs pairs).nodup
    intro name isName
    have written := mem_names_writeAll_iff.mp isName
    exact written.resolve_left List.not_mem_nil
  constructor
  · intro lost distinct
    rw [entries_ofPairs distinct] at lost
    exact Nat.lt_irrefl _ lost
  · intro repeated
    by_contra notLost
    have asMany : (pairs.map Prod.fst).length ≤ (ofPairs pairs).names.length := by
      rw [List.length_map, names, List.length_map]
      omega
    have same := fewer.perm_of_length_le asMany
    exact repeated (same.nodup_iff.mp (ofPairs pairs).nodup)

theorem ofPairs_entries (scope : Scope) : ofPairs scope.entries = scope :=
  Scope.ext (entries_ofPairs scope.nodup)

/-! ### Pairs that are written again -/

theorem write_write (scope : Scope) (name old text : String) :
    (scope.write name old).write name text = scope.write name text := by
  ext1
  rw [entries_write, entries_write, entries_write]
  induction scope.entries with
  | nil => simp [writeEntries]
  | cons entry rest inductionHypothesis =>
    by_cases same : entry.1 = name
    · simp [writeEntries, same]
    · simp [writeEntries, same, inductionHypothesis]

theorem write_comm {scope : Scope} {name other : String} (present : name ∈ scope.names)
    (different : other ≠ name) (text later : String) :
    (scope.write name text).write other later = (scope.write other later).write name text := by
  ext1
  rw [names] at present
  rw [entries_write, entries_write, entries_write, entries_write]
  generalize scope.entries = entries at present ⊢
  induction entries with
  | nil => cases present
  | cons entry rest inductionHypothesis =>
    by_cases isName : entry.1 = name
    · simp [writeEntries, isName, Ne.symm different]
    · by_cases isOther : entry.1 = other
      · simp [writeEntries, isOther, different]
      · have presentLater : name ∈ rest.map Prod.fst :=
          (List.mem_cons.mp present).resolve_left (Ne.symm isName)
        simp [writeEntries, isName, isOther, inductionHypothesis presentLater]

theorem write_writeAll_comm {scope : Scope} {name : String} {pairs : List (String × String)}
    (present : name ∈ scope.names) (absent : name ∉ pairs.map Prod.fst) (text : String) :
    (scope.write name text).writeAll pairs = (scope.writeAll pairs).write name text := by
  induction pairs generalizing scope with
  | nil => rfl
  | cons pair pairs inductionHypothesis =>
    rw [List.map_cons, List.mem_cons, not_or] at absent
    have stays := (names_prefix_write scope pair.1 pair.2).subset present
    change ((scope.write name text).write pair.1 pair.2).writeAll pairs = _
    rw [write_comm present (Ne.symm absent.1), inductionHypothesis stays absent.2]
    rfl

theorem writeAll_writeEntries (scope : Scope) {entries : List (String × String)}
    (nodup : (entries.map Prod.fst).Nodup) (name text : String) :
    scope.writeAll (writeEntries name text entries) = (scope.writeAll entries).write name text := by
  induction entries generalizing scope with
  | nil => rfl
  | cons entry entries inductionHypothesis =>
    rw [List.map_cons, List.nodup_cons] at nodup
    by_cases same : entry.1 = name
    · subst same
      have replaced := write_writeAll_comm (mem_names_write scope entry.1 entry.2) nodup.1 text
      rw [write_write] at replaced
      rw [writeEntries, if_pos rfl]
      exact replaced
    · rw [writeEntries, if_neg same]
      exact inductionHypothesis (scope.write entry.1 entry.2) nodup.2

theorem writeAll_writeAll (scope base : Scope) (pairs : List (String × String)) :
    scope.writeAll (base.writeAll pairs).entries =
      (scope.writeAll base.entries).writeAll pairs := by
  induction pairs generalizing base with
  | nil => rfl
  | cons pair pairs inductionHypothesis =>
    change scope.writeAll ((base.write pair.1 pair.2).writeAll pairs).entries = _
    rw [inductionHypothesis, entries_write, writeAll_writeEntries scope base.nodup]
    rfl

/-- What pairs write over a scope is what they come to among themselves. -/
theorem writeAll_ofPairs (scope : Scope) (pairs : List (String × String)) :
    scope.writeAll (ofPairs pairs).entries = scope.writeAll pairs :=
  writeAll_writeAll scope empty pairs

theorem get?_writeAll_of_not_mem {scope : Scope} {name : String} {pairs : List (String × String)}
    (absent : name ∉ pairs.map Prod.fst) : (scope.writeAll pairs).get? name = scope.get? name := by
  induction pairs generalizing scope with
  | nil => rfl
  | cons pair pairs inductionHypothesis =>
    rw [List.map_cons, List.mem_cons, not_or] at absent
    change ((scope.write pair.1 pair.2).writeAll pairs).get? name = _
    rw [inductionHypothesis absent.2, get?_write, if_neg absent.1]

theorem get?_writeAll_of_last (scope : Scope) {name text : String}
    {before after : List (String × String)} (last : name ∉ after.map Prod.fst) :
    (scope.writeAll (before ++ (name, text) :: after)).get? name = some text := by
  rw [writeAll, List.foldl_append]
  change (((scope.writeAll before).write name text).writeAll after).get? name = _
  rw [get?_writeAll_of_not_mem last, get?_write, if_pos rfl]

/-! ### Pairs in any order -/

theorem get?_eq_some_iff {scope : Scope} {name text : String} :
    scope.get? name = some text ↔ (name, text) ∈ scope.entries := by
  constructor
  · intro found
    obtain ⟨before, after, cut, _⟩ := List.lookup_eq_some_iff.mp found
    rw [cut]
    exact List.mem_append_right _ List.mem_cons_self
  · intro isEntry
    obtain ⟨before, after, cut⟩ := List.append_of_mem isEntry
    have distinct := scope.nodup
    rw [cut, List.map_append, List.nodup_append] at distinct
    rw [get?, List.lookup_eq_some_iff]
    refine ⟨before, after, cut, ?_⟩
    intro other isBefore
    have different := distinct.2.2 _ (List.mem_map_of_mem isBefore) name (by simp)
    simpa using Ne.symm different

theorem get?_eq_none_iff {scope : Scope} {name : String} :
    scope.get? name = none ↔ name ∉ scope.names := by
  rw [Option.eq_none_iff_forall_ne_some, names]
  constructor
  · intro absent isName
    obtain ⟨⟨_, text⟩, isEntry, rfl⟩ := List.mem_map.mp isName
    exact absent text (get?_eq_some_iff.mpr isEntry)
  · intro absent text found
    exact absent (List.mem_map_of_mem (get?_eq_some_iff.mp found))

theorem get?_writeAll_of_mem (scope : Scope) {name text : String} {pairs : List (String × String)}
    (distinct : (pairs.map Prod.fst).Nodup) (isPair : (name, text) ∈ pairs) :
    (scope.writeAll pairs).get? name = some text := by
  obtain ⟨before, after, rfl⟩ := List.append_of_mem isPair
  apply get?_writeAll_of_last
  rw [List.map_append, List.nodup_append, List.map_cons, List.nodup_cons] at distinct
  exact distinct.2.1.1

/-- The order in which pairs with distinct names are written makes no difference to what the names
have. -/
theorem get?_writeAll_perm (scope : Scope) {pairs others : List (String × String)}
    (perm : pairs.Perm others) (distinct : (pairs.map Prod.fst).Nodup) (name : String) :
    (scope.writeAll pairs).get? name = (scope.writeAll others).get? name := by
  have distinctToo : (others.map Prod.fst).Nodup := (perm.map Prod.fst).nodup_iff.mp distinct
  by_cases isName : name ∈ pairs.map Prod.fst
  · obtain ⟨⟨_, text⟩, isPair, rfl⟩ := List.mem_map.mp isName
    rw [get?_writeAll_of_mem scope distinct isPair,
      get?_writeAll_of_mem scope distinctToo (perm.mem_iff.mp isPair)]
  · have isNoName : name ∉ others.map Prod.fst := by rwa [← (perm.map Prod.fst).mem_iff]
    rw [get?_writeAll_of_not_mem isName, get?_writeAll_of_not_mem isNoName]

theorem names_writeAll (scope : Scope) {pairs : List (String × String)}
    (distinct : (pairs.map Prod.fst).Nodup) :
    (scope.writeAll pairs).names =
      scope.names ++ (pairs.map Prod.fst).filter (· ∉ scope.names) := by
  induction pairs generalizing scope with
  | nil => simp [writeAll]
  | cons pair pairs inductionHypothesis =>
    rw [List.map_cons, List.nodup_cons] at distinct
    change ((scope.write pair.1 pair.2).writeAll pairs).names = _
    rw [inductionHypothesis _ distinct.2, names_write, List.map_cons]
    by_cases present : pair.1 ∈ scope.names
    · simp [present]
    · have sameNew : (pairs.map Prod.fst).filter (· ∉ scope.names ++ [pair.1]) =
          (pairs.map Prod.fst).filter (· ∉ scope.names) := by
        apply List.filter_congr
        intro name isName
        have different : name ≠ pair.1 := fun same => distinct.1 (same ▸ isName)
        simp [different]
      rw [if_neg present, sameNew, List.filter_cons_of_pos (by simpa using present),
        List.append_assoc, List.singleton_append]

end PromptTree.Scope
