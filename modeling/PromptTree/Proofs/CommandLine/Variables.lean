import PromptTree.CommandLine.Context
import PromptTree.Proofs.Scope.Texts
import PromptTree.Proofs.Value.Spelling

/-!
The variables of a file. They get the names that the object in the file gives them, in its order, but
each value is written as it is shown, while the same object written over a scope has each value as it
is kept. So the two scopes are the same exactly if every value that no word replaces is shown as it is
kept (`initialScope_eq_iff`).
-/

namespace PromptTree.CommandLine

variable {settings : RunSettings} {files : Files} {content : String} {entries : Entries}
  {words : List (String × String)}

theorem initialScope_eq (hasFile : settings.contextPath.isEmpty = false)
    (isFile : files.exists? (.ofText settings.contextPath) = true)
    (isText : files.readText (.ofText settings.contextPath) = .ok content)
    (isObject : Json.read content = .ok (.map entries))
    (areWords : settings.context.mapM wordVariable = .ok words) :
    settings.initialScope files =
      .ok ((Scope.ofPairs (Scope.pairsOf Value.shown entries)).writeAll words) := by
  unfold RunSettings.initialScope fileVariables jsonVariables
  rw [hasFile, isFile, isText]
  simp only [isObject, areWords, bind, Except.bind, Bool.false_eq_true, if_false, if_true]
  exact congrArg Except.ok (List.foldl_append ..)

theorem shown_eq_textOf_iff {v : Value} (isJson : v.IsJson) :
    v.shown = Scope.textOf v ↔ v.shownAlike = true := by
  rw [← Value.toText_eq_shown_iff isJson, Scope.textOf]
  cases isText : v.toText with
  | error e => exact absurd (Value.toText_eq_error_iff.mp isText) isJson.not_wordless
  | ok text => rw [Except.ok.injEq, eq_comm, Except.toOption, Option.getD_some]

/-- A file gives a run the variables that its object would give it, but each of them as it is shown. The
run starts as it would with the object itself exactly if every variable that no word replaces is
shown as it is kept. -/
theorem initialScope_eq_iff (hasFile : settings.contextPath.isEmpty = false)
    (isFile : files.exists? (.ofText settings.contextPath) = true)
    (isText : files.readText (.ofText settings.contextPath) = .ok content)
    (isObject : Json.read content = .ok (.map entries))
    (areWords : settings.context.mapM wordVariable = .ok words) :
    ∃ kept initial, Scope.ofValues entries = .ok kept ∧ settings.initialScope files = .ok initial ∧
      initial.names = (kept.writeAll words).names ∧
      (∀ entry ∈ entries, entry.1.shown ∉ words.map Prod.fst →
        initial.get? entry.1.shown = some entry.2.shown) ∧
      (initial = kept.writeAll words ↔ ∀ entry ∈ entries,
        entry.1.shown ∉ words.map Prod.fst → entry.2.shownAlike = true) ∧
      ∀ base : Scope, base.merge initial.toValues = (base.merge entries).map (·.writeAll words) ↔
        ∀ entry ∈ entries, entry.1.shown ∉ words.map Prod.fst → entry.2.shownAlike = true := by
  obtain ⟨named, isJson⟩ : entries.IsNamed ∧ ∀ entry ∈ entries, entry.2.IsJson := by
    cases Json.isJson_of_read isObject with
    | map named isJson => exact ⟨named, isJson⟩
  have haveText : ∀ entry ∈ entries, ¬ entry.2.Wordless :=
    fun entry isEntry => (isJson entry isEntry).not_wordless
  have distinct := named.nodup_names
  have sameNames := Scope.names_writeAll_congr
    ((Scope.names_pairsOf distinct Value.shown).trans
      (Scope.names_pairsOf distinct Scope.textOf).symm) words
  have sameScope : (Scope.ofPairs (Scope.pairsOf Value.shown entries)).writeAll words =
      (Scope.ofPairs (Scope.pairsOf Scope.textOf entries)).writeAll words ↔ ∀ entry ∈ entries,
        entry.1.shown ∉ words.map Prod.fst → entry.2.shownAlike = true := by
    refine (Scope.pairsOf_eq_iff distinct Value.shown Scope.textOf).trans ?_
    refine forall₂_congr fun entry isEntry => imp_congr_right fun _ => ?_
    exact shown_eq_textOf_iff (isJson entry isEntry)
  refine ⟨_, _, Scope.merge_eq_writeAll haveText .empty,
    initialScope_eq hasFile isFile isText isObject areWords, sameNames, ?_,
    sameScope, ?_⟩
  · intro entry isEntry noWord
    rw [Scope.get?_writeAll_of_not_mem noWord]
    exact Scope.get?_pairsOf distinct Value.shown isEntry
  · intro base
    rw [Scope.merge_toValues, Scope.merge_eq_writeAll haveText base, ← sameScope,
      ← Scope.writeAll_entries_inj base sameNames,
      Scope.writeAll_writeAll base (Scope.ofPairs (Scope.pairsOf Scope.textOf entries)),
      Scope.writeAll_ofPairs]
    change Except.ok _ = Except.ok _ ↔ _
    rw [Except.ok.injEq]

def absentFile : Files where
  here := []
  entries := [(["c.json"], .file [0x7B, 0x22, 0x61, 0x22, 0x3A, 0x6E, 0x75, 0x6C, 0x6C, 0x7D])]

theorem read_absent : Json.read "\x7b\"a\":null\x7d" = .ok (.map [(.text "a", .null)]) := by
  have isKey (rest : List Char) :
      Json.readString 1 2 ('a' :: '"' :: rest) = .ok (['a'], ⟨4, rest⟩) := by
    simp [Json.readString, Except.map]
  have areEntries : Json.readEntries 21 ⟨1, ['"', 'a', '"', ':', 'n', 'u', 'l', 'l', '}']⟩ =
      .ok ([(.text "a", .null)], ⟨10, []⟩) := by
    change (Json.readString 1 2 ['a', '"', ':', 'n', 'u', 'l', 'l', '}'] >>= _) = _
    rw [isKey]
    rfl
  have isMap : Json.readValue 22 ⟨0, ['{', '"', 'a', '"', ':', 'n', 'u', 'l', 'l', '}']⟩ =
      .ok (.map [(.text "a", .null)], ⟨10, []⟩) := by
    change (Json.readEntries 21 ⟨1, ['"', 'a', '"', ':', 'n', 'u', 'l', 'l', '}']⟩).map _ = _
    rw [areEntries]
    rfl
  change (Json.readValue 22 ⟨0, ['{', '"', 'a', '"', ':', 'n', 'u', 'l', 'l', '}']⟩ >>= _) = _
  rw [isMap]
  rfl

theorem initialScope_eq_iff_absent :
    ∃ kept initial, Scope.ofValues [(.text "a", .null)] = .ok kept ∧
      ({ context := ["b=2"], contextPath := "c.json" } : RunSettings).initialScope absentFile =
        .ok initial ∧
      initial.names = (kept.writeAll [("b", "2")]).names ∧
      (∀ entry ∈ [(Value.text "a", Value.null)], entry.1.shown ∉ [("b", "2")].map Prod.fst →
        initial.get? entry.1.shown = some entry.2.shown) ∧
      (initial = kept.writeAll [("b", "2")] ↔ ∀ entry ∈ [(Value.text "a", Value.null)],
        entry.1.shown ∉ [("b", "2")].map Prod.fst → entry.2.shownAlike = true) ∧
      ∀ base : Scope, base.merge initial.toValues =
          (base.merge [(.text "a", .null)]).map (·.writeAll [("b", "2")]) ↔
        ∀ entry ∈ [(Value.text "a", Value.null)],
          entry.1.shown ∉ [("b", "2")].map Prod.fst → entry.2.shownAlike = true :=
  initialScope_eq_iff rfl (by decide +kernel) (by decide +kernel) read_absent rfl

/-- A variable that is absent from the start has no text, but in a file it is given one. -/
theorem not_always_kept : ¬ ∀ (settings : RunSettings) (files : Files) (content : String)
    (entries : Entries), settings.context = [] → settings.contextPath.isEmpty = false →
      files.exists? (.ofText settings.contextPath) = true →
        files.readText (.ofText settings.contextPath) = .ok content →
          Json.read content = .ok (.map entries) →
            ∃ kept, Scope.ofValues entries = .ok kept ∧ settings.initialScope files = .ok kept := by
  intro always
  obtain ⟨kept, isKept, isInitial⟩ := always { contextPath := "c.json" } absentFile "\x7b\"a\":null\x7d"
    [(.text "a", .null)] rfl rfl (by decide +kernel) (by decide +kernel) read_absent
  rw [initialScope_eq rfl (by decide +kernel) (by decide +kernel) read_absent rfl] at isInitial
  cases isInitial
  have sameText := congrArg (·.get? "a") (Except.ok.inj isKept)
  exact absurd sameText (by decide)

end PromptTree.CommandLine
