import Mathlib.Data.List.Induction
import PromptTree.Proofs.Scope.Texts
import PromptTree.Proofs.Value.Keys

/-!
Maps merged into scopes. A merged scope is told by the entries of the maps, one map behind the other:
its names are the texts of the keys in the order in which they first come, each with the text of its
last value (`collects_ofPairs`). Main statement: merging is associative, a map that is not there is
its unit, and maps merged one after the other come to the same as their combined map merged once
(`mergeMaps_monoid`).
-/

namespace PromptTree

def Entries.last? (entries : Entries) (name : String) : Option Value :=
  (entries.reverse.find? (·.1.shown = name)).map Prod.snd

namespace Scope

/-- The scope of a map with the entries of another one written over it; a map that is not there has no
entries. -/
def mergeMaps (base updates : Option Entries) : Except TextError Scope := do
  (← ofValues (base.getD [])).merge (updates.getD [])

/-- The scope is what the entries come to, written in their order. -/
structure Collects (scope : Scope) (entries : Entries) : Prop where
  names : scope.names = (entries.map (·.1.shown)).eraseDups
  texts : ∀ name, (scope.get? name).map Except.ok = (entries.last? name).map Value.toText

theorem writeAll_append (scope : Scope) (first second : List (String × String)) :
    scope.writeAll (first ++ second) = (scope.writeAll first).writeAll second :=
  List.foldl_append

theorem ofPairs_append (first second : List (String × String)) :
    ofPairs (first ++ second) = (ofPairs first).writeAll second :=
  writeAll_append empty first second

theorem names_ofPairs_eq_eraseDups (pairs : List (String × String)) :
    (ofPairs pairs).names = (pairs.map Prod.fst).eraseDups := by
  induction pairs using List.reverseRecOn with
  | nil => rfl
  | append_singleton pairs pair inductionHypothesis =>
    have written : ofPairs (pairs ++ [pair]) = (ofPairs pairs).write pair.1 pair.2 :=
      ofPairs_append pairs [pair]
    have isName : pair.1 ∈ (ofPairs pairs).names ↔ pair.1 ∈ pairs.map Prod.fst := by
      rw [inductionHypothesis, List.mem_eraseDups]
    rw [written, names_write, List.map_append, List.eraseDups_append, ← inductionHypothesis]
    by_cases present : pair.1 ∈ pairs.map Prod.fst
    · rw [if_pos (isName.mpr present)]
      simp [List.removeAll, present]
    · rw [if_neg (mt isName.mp present)]
      simp [List.removeAll, present, List.eraseDups_cons]

theorem toText_eq_textOf {v : Value} (hasText : ¬ v.Wordless) : v.toText = .ok (textOf v) := by
  cases isText : v.toText with
  | error e => exact absurd (Value.toText_eq_error_iff.mp isText) hasText
  | ok text => rw [textOf, isText]; rfl

theorem get?_ofPairs_pairsOf (textOf : Value → String) (entries : Entries) (name : String) :
    (ofPairs (pairsOf textOf entries)).get? name = (entries.last? name).map textOf := by
  induction entries using List.reverseRecOn with
  | nil => rfl
  | append_singleton entries entry inductionHypothesis =>
    have written : ofPairs (pairsOf textOf (entries ++ [entry])) =
        (ofPairs (pairsOf textOf entries)).write entry.1.shown (textOf entry.2) := by
      rw [pairsOf, List.map_append, ofPairs_append]
      rfl
    rw [written, get?_write, inductionHypothesis, Entries.last?, Entries.last?, List.reverse_append,
      List.reverse_singleton, List.singleton_append, List.find?_cons]
    by_cases isName : entry.1.shown = name
    · simp [isName]
    · simp [isName, Ne.symm isName]

theorem collects_ofPairs {entries : Entries} (haveText : ∀ entry ∈ entries, ¬ entry.2.Wordless) :
    (ofPairs (pairsOf textOf entries)).Collects entries where
  names := by
    rw [names_ofPairs_eq_eraseDups, pairsOf, List.map_map]
    rfl
  texts := by
    intro name
    rw [get?_ofPairs_pairsOf, Entries.last?, Option.map_map]
    cases found : entries.reverse.find? (·.1.shown = name) with
    | none => rfl
    | some entry =>
      have isEntry := List.mem_reverse.mp (List.mem_of_find?_eq_some found)
      exact congrArg some (toText_eq_textOf (haveText entry isEntry)).symm

theorem pairsOf_append (textOf : Value → String) (first second : Entries) :
    pairsOf textOf (first ++ second) = pairsOf textOf first ++ pairsOf textOf second :=
  List.map_append

theorem mergeMaps_eq {base updates : Option Entries}
    (haveText : ∀ entry ∈ base.getD [] ++ updates.getD [], ¬ entry.2.Wordless) :
    mergeMaps base updates = .ok (ofPairs (pairsOf textOf (base.getD [] ++ updates.getD []))) := by
  rw [List.forall_mem_append] at haveText
  rw [mergeMaps, ofValues, merge_eq_writeAll haveText.1, pairsOf_append, ofPairs_append]
  exact merge_eq_writeAll haveText.2 _

theorem ofValues_toValues (scope : Scope) : ofValues scope.toValues = .ok scope := by
  rw [ofValues, merge_toValues]
  exact congrArg Except.ok (ofPairs_entries scope)

/-! ### Maps one after the other -/

theorem foldlM_merge {maps : List Entries}
    (haveText : ∀ entry ∈ maps.flatten, ¬ entry.2.Wordless) (scope : Scope) :
    maps.foldlM merge scope = .ok (scope.writeAll (pairsOf textOf maps.flatten)) := by
  induction maps generalizing scope with
  | nil => rfl
  | cons entries maps inductionHypothesis =>
    rw [List.flatten_cons, List.forall_mem_append] at haveText
    rw [List.foldlM_cons, merge_eq_writeAll haveText.1, List.flatten_cons, pairsOf_append,
      writeAll_append]
    exact inductionHypothesis haveText.2 _

/-- All keys are texts. -/
def AreFields (entries : Entries) : Prop :=
  ∀ entry ∈ entries, ∃ name, entry.1 = .text name

/-- A map with texts as keys keeps its entries as a scope does. -/
theorem pairsOf_insert (textOf : Value → String) (name : String) (v : Value) {entries : Entries}
    (areFields : AreFields entries) :
    pairsOf textOf (Entries.insert (.text name) v entries) =
      writeEntries name (textOf v) (pairsOf textOf entries) := by
  induction entries with
  | nil => rfl
  | cons entry entries inductionHypothesis =>
    obtain ⟨key, old⟩ := entry
    obtain ⟨⟨other, rfl⟩, laterFields⟩ := List.forall_mem_cons.mp areFields
    have sameKey : (Value.text other).same (.text name) = true ↔ other = name := by
      rw [Value.same_text_right, Value.text.injEq]
    rw [Entries.insert]
    by_cases same : other = name
    · subst same
      rw [if_pos (sameKey.mpr rfl)]
      exact (if_pos rfl).symm
    · rw [if_neg (mt sameKey.mp same)]
      exact (congrArg (_ :: ·) (inductionHypothesis laterFields)).trans (if_neg same).symm

theorem AreFields.insert {entries : Entries} (areFields : AreFields entries) (name : String)
    (v : Value) : AreFields (Entries.insert (.text name) v entries) := by
  intro entry isEntry
  rcases Entries.mem_insert isEntry with isOld | ⟨_, isKey | isSame⟩
  · exact areFields entry isOld
  · exact ⟨name, isKey⟩
  · exact ⟨name, Value.same_text_right.mp isSame⟩

theorem pairsOf_overlay (textOf : Value → String) {entries base : Entries} {scope : Scope}
    (areFields : AreFields entries) (baseFields : AreFields base)
    (isScope : pairsOf textOf base = scope.entries) :
    AreFields (entries.overlay base) ∧
      pairsOf textOf (entries.overlay base) = (scope.writeAll (pairsOf textOf entries)).entries := by
  induction entries generalizing base scope with
  | nil => exact ⟨baseFields, isScope⟩
  | cons entry entries inductionHypothesis =>
    obtain ⟨key, v⟩ := entry
    obtain ⟨⟨name, rfl⟩, laterFields⟩ := List.forall_mem_cons.mp areFields
    apply inductionHypothesis laterFields (baseFields.insert name v)
    rw [pairsOf_insert textOf name v baseFields, isScope]
    rfl

theorem forall_mem_overlay {P : Value → Prop} {entries base : Entries}
    (hold : ∀ entry ∈ entries, P entry.2) (baseHold : ∀ entry ∈ base, P entry.2) :
    ∀ entry ∈ entries.overlay base, P entry.2 := by
  induction entries generalizing base with
  | nil => exact baseHold
  | cons first entries inductionHypothesis =>
    rw [List.forall_mem_cons] at hold
    apply inductionHypothesis hold.2
    intro entry isEntry
    rcases Entries.mem_insert isEntry with isOld | ⟨isValue, _⟩
    · exact baseHold entry isOld
    · exact isValue ▸ hold.1

theorem forall_mem_combined {P : Value → Prop} {maps : List Entries} {base : Entries}
    (hold : ∀ entry ∈ maps.flatten, P entry.2) (baseHold : ∀ entry ∈ base, P entry.2) :
    ∀ entry ∈ maps.foldl (fun all entries => entries.overlay all) base, P entry.2 := by
  induction maps generalizing base with
  | nil => exact baseHold
  | cons entries maps inductionHypothesis =>
    rw [List.flatten_cons, List.forall_mem_append] at hold
    exact inductionHypothesis hold.2 (forall_mem_overlay hold.1 baseHold)

/-- Maps written over one another are, as a scope, what all their entries come to. -/
theorem pairsOf_combined (textOf : Value → String) {maps : List Entries} {base : Entries}
    {scope : Scope} (areFields : AreFields maps.flatten) (baseFields : AreFields base)
    (isScope : pairsOf textOf base = scope.entries) :
    pairsOf textOf (maps.foldl (fun all entries => entries.overlay all) base) =
      (scope.writeAll (pairsOf textOf maps.flatten)).entries := by
  induction maps generalizing base scope with
  | nil => exact isScope
  | cons entries maps inductionHypothesis =>
    rw [AreFields, List.flatten_cons, List.forall_mem_append] at areFields
    obtain ⟨overFields, isWritten⟩ := pairsOf_overlay textOf areFields.1 baseFields isScope
    rw [List.foldl_cons, List.flatten_cons, pairsOf_append, writeAll_append]
    exact inductionHypothesis areFields.2 overFields isWritten

/-- Merging maps into scopes is associative, with a map that is not there as its unit: the names come in
the order in which the texts of their keys first come, each with the text of its last value. So maps
that are merged one after the other come to the same as all of them merged at once, whether they are
combined by merging or, with texts as keys, written over one another as maps. -/
theorem mergeMaps_monoid (a b c : Option Entries) (answers : List Entries) (scope : Scope)
    (haveText : ∀ entry ∈ a.getD [] ++ b.getD [] ++ c.getD [] ++ answers.flatten,
      ¬ entry.2.Wordless) :
    (∃ ab bc whole, mergeMaps a b = .ok ab ∧ mergeMaps b c = .ok bc ∧
        mergeMaps (some ab.toValues) c = .ok whole ∧ mergeMaps a (some bc.toValues) = .ok whole ∧
        ab.Collects (a.getD [] ++ b.getD []) ∧ bc.Collects (b.getD [] ++ c.getD []) ∧
        whole.Collects (a.getD [] ++ b.getD [] ++ c.getD [])) ∧
      (∃ alone, mergeMaps a none = .ok alone ∧ mergeMaps none a = .ok alone ∧
        ofValues (a.getD []) = .ok alone ∧ alone.Collects (a.getD [])) ∧
      ∃ combined merged, answers.foldlM merge empty = .ok combined ∧
        answers.foldlM merge scope = .ok merged ∧ scope.merge combined.toValues = .ok merged ∧
        (AreFields answers.flatten →
          scope.merge (answers.foldl (fun all entries => entries.overlay all) []) = .ok merged) := by
  simp only [List.forall_mem_append] at haveText
  obtain ⟨⟨⟨haveTextA, haveTextB⟩, haveTextC⟩, haveTextAnswers⟩ := haveText
  have haveTextAB := List.forall_mem_append.mpr ⟨haveTextA, haveTextB⟩
  have haveTextBC := List.forall_mem_append.mpr ⟨haveTextB, haveTextC⟩
  refine ⟨?_, ?_, ?_⟩
  · let whole := ofPairs (pairsOf textOf (a.getD [] ++ b.getD [] ++ c.getD []))
    have left : mergeMaps (some (ofPairs (pairsOf textOf (a.getD [] ++ b.getD []))).toValues) c =
        .ok whole := by
      rw [mergeMaps, Option.getD_some, ofValues_toValues]
      change merge _ _ = _
      rw [merge_eq_writeAll haveTextC, ← ofPairs_append, ← pairsOf_append]
    have right : mergeMaps a (some (ofPairs (pairsOf textOf (b.getD [] ++ c.getD []))).toValues) =
        .ok whole := by
      rw [mergeMaps, Option.getD_some, ofValues, merge_eq_writeAll haveTextA]
      change merge _ _ = _
      rw [merge_toValues, writeAll_ofPairs]
      change Except.ok ((ofPairs _).writeAll _) = _
      rw [← ofPairs_append, ← pairsOf_append, ← List.append_assoc]
    have collects := collects_ofPairs (List.forall_mem_append.mpr ⟨haveTextAB, haveTextC⟩)
    exact ⟨_, _, whole, mergeMaps_eq haveTextAB, mergeMaps_eq haveTextBC, left, right,
      collects_ofPairs haveTextAB, collects_ofPairs haveTextBC, collects⟩
  · refine ⟨ofPairs (pairsOf textOf (a.getD [])), ?_, ?_, ?_, collects_ofPairs haveTextA⟩
    · have noUpdates : ∀ entry ∈ a.getD [] ++ (none : Option Entries).getD [], ¬ entry.2.Wordless := by
        simpa using haveTextA
      simpa using mergeMaps_eq noUpdates
    · have noBase : ∀ entry ∈ (none : Option Entries).getD [] ++ a.getD [], ¬ entry.2.Wordless :=
        haveTextA
      exact mergeMaps_eq noBase
    · exact merge_eq_writeAll haveTextA empty
  · refine ⟨_, _, foldlM_merge haveTextAnswers empty, foldlM_merge haveTextAnswers scope, ?_, ?_⟩
    · rw [merge_toValues]
      exact congrArg Except.ok (writeAll_ofPairs scope _)
    · intro areFields
      have combinedText : ∀ entry ∈ answers.foldl (fun all entries => entries.overlay all) [],
          ¬ entry.2.Wordless :=
        forall_mem_combined (P := fun v => ¬ v.Wordless) haveTextAnswers (List.forall_mem_nil _)
      have isCombined : pairsOf textOf (answers.foldl (fun all entries => entries.overlay all) []) =
          (empty.writeAll (pairsOf textOf answers.flatten)).entries :=
        pairsOf_combined textOf areFields (List.forall_mem_nil _) rfl
      rw [merge_eq_writeAll combinedText, isCombined]
      exact congrArg Except.ok (writeAll_ofPairs scope _)

theorem mergeMaps_monoid_mixed :
    let a : Option Entries := some [(.int 1, .text "x"), (.text "0", .null)]
    let b : Option Entries := some [(.text "1", .bool true), (.bool true, .list [.int 1])]
    let answers : List Entries :=
      [[(.text "1", .text "no")], [(.text "mood", .text "ok"), (.text "1", .text "yes")]]
    let scope := ofPairs [("mood", "bad")]
    (∀ entry ∈ a.getD [] ++ b.getD [] ++ (none : Option Entries).getD [] ++ answers.flatten,
        ¬ entry.2.Wordless) ∧
      (∃ ab whole, mergeMaps a b = .ok ab ∧ mergeMaps (some ab.toValues) none = .ok whole ∧
        whole.names = ["1", "0", "True"] ∧ whole.get? "1" = some "true") ∧
      ∃ merged, answers.foldlM merge scope = .ok merged ∧
        scope.merge [(.text "1", .text "yes"), (.text "mood", .text "ok")] = .ok merged := by
  intro a b answers scope
  have areWritten : ∀ entry ∈ a.getD [] ++ b.getD [] ++ (none : Option Entries).getD [] ++
      answers.flatten, entry.2.toText.toOption.isSome = true := by decide +kernel
  have haveText : ∀ entry ∈ a.getD [] ++ b.getD [] ++ (none : Option Entries).getD [] ++
      answers.flatten, ¬ entry.2.Wordless := by
    intro entry isEntry wordless
    have isWritten := areWritten entry isEntry
    have noText : entry.2.toText = .error .noText := Value.toText_eq_error_iff.mpr wordless
    rw [noText] at isWritten
    cases isWritten
  obtain ⟨⟨ab, _, whole, isAb, _, isWhole, _, _, _, collects⟩, _, _, merged, _, isMerged, _,
    isCombined⟩ := mergeMaps_monoid a b none answers scope haveText
  have names : whole.names = ["1", "0", "True"] := by
    rw [collects.names]
    decide +kernel
  have text : whole.get? "1" = some "true" := by
    have isLast := collects.texts "1"
    change _ = some (Except.ok "true") at isLast
    obtain ⟨text, found, isText⟩ := Option.map_eq_some_iff.mp isLast
    rw [found, Except.ok.inj isText]
  have areFields : AreFields answers.flatten := by simp [AreFields, answers]
  exact ⟨haveText, ⟨ab, whole, isAb, isWhole, names, text⟩, merged, isMerged, isCombined areFields⟩

end Scope

end PromptTree
