import PromptTree.Proofs.Document.Description

/-!
Variables and tests that are read without a problem. Main statements: such a variable is the one
that its data declares (`declares_of_gives`), such a test the one that its data describes
(`tests_of_gives`), and no reading without a problem leaves an item of a list out
(`forall₂_of_numbered`).
-/

namespace PromptTree.Document.Reading

theorem onlyFields_of_gives {path : String} {unknown : String → Mistake} {fields : List String}
    {entries : Entries} {u : Unit} (clean : (knownKeys path unknown fields entries).Gives u) :
    OnlyFields fields entries := by
  induction entries with
  | nil => simp [OnlyFields]
  | cons entry rest inductionHypothesis =>
    obtain ⟨key, v⟩ := entry
    unfold knownKeys at clean
    split at clean
    · next known =>
      refine List.forall_mem_cons.mpr ⟨?_, inductionHypothesis clean⟩
      cases key <;> simp_all [Value.asText?]
    · simp at clean

theorem textField_of_isEmpty (s : String) :
    TextField (.text s) (if s.isEmpty then none else some s) := by
  by_cases empty : s = ""
  · subst empty
    exact .empty
  · rw [if_neg (by simpa using empty)]
    exact .text empty

theorem pattern_of_gives {path : String} {v : Value} {kept : Option String}
    (clean : (pattern path v).Gives kept) : TextField v kept ∧ KeptPattern kept := by
  unfold pattern at clean
  split at clean
  · obtain rfl := gives_of.mp clean
    exact ⟨.absent, by simp [KeptPattern]⟩
  · next s =>
    by_cases empty : s = ""
    · subst empty
      obtain rfl := gives_of.mp clean
      exact ⟨.empty, by simp [KeptPattern]⟩
    · rw [if_neg (by simpa using empty)] at clean
      split at clean
      · next compiled =>
        obtain rfl := gives_of.mp clean
        refine ⟨.text empty, ?_⟩
        rintro _ ⟨⟩
        refine ⟨empty, ?_⟩
        unfold Regex.fault? at compiled
        split at compiled
        · next regex read => exact ⟨regex, read⟩
        · cases compiled
      · simp at clean
      · simp at clean
  · simp at clean

theorem listed_of_gives {path key : String} {entries : Entries} {items : List Value}
    (clean : (listField path key (fieldOf entries key)).Gives items) :
    Listed entries key items := by
  cases held : fieldOf entries key with
  | null =>
    rw [held] at clean
    obtain rfl := gives_of.mp clean
    exact .absent held
  | list found =>
    rw [held] at clean
    obtain rfl := gives_of.mp clean
    exact .list held
  | _ =>
    rw [held] at clean
    simp [listField] at clean

/-- If no clean reading of an item comes to nothing, a clean reading of a list leaves none out. -/
theorem forall₂_of_numbered {α : Type} {read : String → Value → Reading (Option α)}
    {describes : Value → α → Prop}
    (described : ∀ path v found, (read path v).Gives found → ∃ a, found = some a ∧ describes v a)
    {path key : String} {i : Nat} {vs : List Value} {as : List α}
    (clean : (numbered read path key i vs).Gives as) : List.Forall₂ describes vs as := by
  induction vs generalizing i as with
  | nil =>
    obtain rfl := gives_of.mp clean
    exact .nil
  | cons v vs inductionHypothesis =>
    simp only [numbered, gives_bind, gives_pure] at clean
    obtain ⟨first, firstRead, rest, restRead, rfl⟩ := clean
    obtain ⟨a, rfl, describesFirst⟩ := described _ _ _ firstRead
    exact .cons describesFirst (inductionHypothesis restRead)

/-! ### Variables -/

theorem text_of_gives {v : Value} {s : String} (clean : (text v).Gives s) : v.toText = .ok s := by
  unfold text at clean
  split at clean
  · next read =>
    obtain rfl := gives_of.mp clean
    exact read
  · simp at clean

theorem texts_of_gives {vs : List Value} {ss : List String} (clean : (texts vs).Gives ss) :
    List.Forall₂ (fun v s => v.toText = .ok s) vs ss := by
  induction vs generalizing ss with
  | nil =>
    obtain rfl := gives_of.mp clean
    exact .nil
  | cons v vs inductionHypothesis =>
    simp only [texts, gives_bind, gives_pure] at clean
    obtain ⟨s, read, rest, restRead, rfl⟩ := clean
    exact .cons (text_of_gives read) (inductionHypothesis restRead)

theorem options_of_gives {path name : String} {entries : Entries} {chosen : List Value}
    (clean : (options path name entries).Gives chosen) :
    usedField? entries "options" = none ∧ chosen = [] ∨
      usedField? entries "options" = some (.list chosen) := by
  unfold options at clean
  split at clean
  · next unused =>
    obtain rfl := gives_of.mp clean
    exact .inl ⟨unused, rfl⟩
  · next items used =>
    obtain rfl := gives_of.mp clean
    exact .inr used
  · simp at clean

theorem limit_of_gives {path name : String} {v : Value} {kept : Option Int}
    (clean : (limit path name v).Gives kept) : ∀ n, kept = some n → 1 ≤ n := by
  unfold limit at clean
  split at clean
  · obtain rfl := gives_of.mp clean
    simp
  · simp only [gives_bind] at clean
    obtain ⟨number, _, clean⟩ := clean
    cases number with
    | none => simp at clean
    | some n =>
      by_cases positive : 0 < n
      · simp only [positive, if_true, gives_pure] at clean
        rintro _ rfl
        cases clean
        exact positive
      · simp [positive] at clean

theorem generated_of_gives {path name : String} {entries : Entries} {g : Generated}
    (clean : (generated path name entries).Gives g)
    (only : OnlyFields variableFields entries) (named : fieldOf entries "name" = .text name) :
    Declares (.map entries) (.generated g) := by
  simp only [generated, gives_bind, gives_pure] at clean
  obtain ⟨chosen, chosenRead, kept, keptRead, required, _, options, optionsRead, rfl⟩ := clean
  have pattern := pattern_of_gives keptRead
  exact .generated only named pattern.1 pattern.2 (options_of_gives chosenRead)
    (texts_of_gives optionsRead)

theorem not_download_gives_none {path name : String} {entries : Entries} :
    ¬ (download path name entries).Gives none := by
  unfold download
  dsimp only
  split <;> simp

theorem download_of_gives {path name : String} {entries : Entries} {d : Download}
    (clean : (download path name entries).Gives (some d))
    (only : OnlyFields variableFields entries) (named : fieldOf entries "name" = .text name) :
    Declares (.map entries) (.download d) := by
  unfold download at clean
  dsimp only at clean
  split at clean
  · simp at clean
  · next source found =>
    simp only [gives_bind, gives_pure, Option.some.injEq] at clean
    obtain ⟨conversion, _, limit, limitRead, rfl⟩ := clean
    obtain ⟨trimmed, used⟩ := Option.filter_eq_some_iff.mp found
    obtain ⟨address, held, rfl⟩ := Option.map_eq_some_iff.mp trimmed
    have written : addressOf entries = .text address := Value.asText?_eq_some_iff.mp held
    exact .download only named written rfl (by simpa using used) (limit_of_gives limitRead)

theorem not_source_gives_none {path name : String} {entries : Entries} :
    ¬ (source path name entries).Gives none := by
  intro clean
  simp only [source, gives_bind] at clean
  obtain ⟨flagged, _, clean⟩ := clean
  cases flagged with
  | true => simp at clean
  | false =>
    simp only [Bool.false_eq_true, if_false] at clean
    split at clean
    · simp at clean
    · split at clean
      · simp at clean
      · split at clean <;> simp at clean

/-- A variable with a name is never left out, and it is the one that its data declares. -/
theorem named_of_gives {path name : String} {entries : Entries} {declared : Option Declaration}
    (clean : (named path name entries).Gives declared)
    (only : OnlyFields variableFields entries) (stands : fieldOf entries "name" = .text name) :
    ∃ d, declared = some d ∧ Declares (.map entries) d := by
  simp only [named, gives_bind] at clean
  obtain ⟨origin, originRead, clean⟩ := clean
  cases origin with
  | none => exact absurd originRead not_source_gives_none
  | some origin =>
    cases origin with
    | fixed =>
      simp only [gives_bind, gives_pure] at clean
      obtain ⟨value, valueRead, rfl⟩ := clean
      exact ⟨_, rfl, .fixed only stands (text_of_gives valueRead)⟩
    | generated =>
      simp only [gives_bind, gives_pure] at clean
      obtain ⟨g, gRead, rfl⟩ := clean
      exact ⟨_, rfl, generated_of_gives gRead only stands⟩
    | download =>
      simp only [gives_bind, gives_pure] at clean
      obtain ⟨d, dRead, rfl⟩ := clean
      cases d with
      | none => exact absurd dRead not_download_gives_none
      | some d => exact ⟨_, rfl, download_of_gives dRead only stands⟩

/-- A variable that is read without a problem is never left out, and it is the one that its data
declares. -/
theorem declares_of_gives {path : String} {v : Value} {declared : Option Declaration}
    (clean : (declaration path v).Gives declared) : ∃ d, declared = some d ∧ Declares v d := by
  unfold declaration at clean
  split at clean
  · next entries =>
    simp only [gives_bind] at clean
    obtain ⟨_, only, clean⟩ := clean
    split at clean
    · next name found =>
      obtain ⟨stands, _⟩ := Option.filter_eq_some_iff.mp found
      exact named_of_gives clean (onlyFields_of_gives only) (Value.asText?_eq_some_iff.mp stands)
    · simp at clean
  · simp at clean

/-! ### Tests -/

theorem expectation_of_gives {path : String} {entries : Entries} {expect : String}
    (clean : (expectation path entries).Gives expect) :
    (usedField? entries "expect" = none ∧ expect = "yes" ∨
      usedField? entries "expect" = some (.text expect)) ∧ (expect = "yes" ∨ expect = "no") := by
  unfold expectation at clean
  split at clean
  · next unused =>
    obtain rfl := gives_of.mp clean
    exact ⟨.inl ⟨unused, rfl⟩, .inl rfl⟩
  · next v used =>
    split at clean
    · next s found =>
      obtain rfl := gives_of.mp clean
      obtain ⟨stands, known⟩ := Option.filter_eq_some_iff.mp found
      obtain rfl := Value.asText?_eq_some_iff.mp stands
      exact ⟨.inr used, by simpa using known⟩
    · simp at clean

theorem testOf_of_gives {path : String} {entries : Entries} {read : Option Validator}
    (clean : (testOf path entries).Gives read) :
    ∃ v, read = some v ∧ Tests (.map entries) v := by
  simp only [testOf, gives_bind] at clean
  obtain ⟨_, only, clean⟩ := clean
  split at clean
  · next s stands =>
    simp only [gives_bind, gives_pure] at clean
    obtain ⟨expect, expectRead, kept, keptRead, rfl⟩ := clean
    have pattern := pattern_of_gives keptRead
    have expectation := expectation_of_gives expectRead
    exact ⟨_, rfl, .map (onlyFields_of_gives only) stands pattern.1 pattern.2 expectation.1
      expectation.2⟩
  · simp at clean

/-- A text alone stands for a map with that text and no other field. -/
theorem tests_text_of_tests_map {s : String} {validator : Validator}
    (described : Tests (.map [(.text "text", .text s)]) validator) : Tests (.text s) validator := by
  have noPattern : fieldOf [(.text "text", .text s)] "pattern" = .null := rfl
  have noExpect : usedField? [(.text "text", .text s)] "expect" = none := rfl
  cases described with
  | map _ stands pattern _ expectation _ =>
    obtain ⟨written, kept, expect⟩ := validator
    have sameText : Value.text s = .text written := stands
    rw [noPattern] at pattern
    rw [noExpect] at expectation
    cases sameText
    cases pattern
    rcases expectation with ⟨_, rfl⟩ | absurdity
    · exact .text s
    · cases absurdity

/-- A test that is read without a problem is never left out, and it is the one that its data
describes. -/
theorem tests_of_gives {path : String} {v : Value} {read : Option Validator}
    (clean : (test path v).Gives read) :
    ∃ validator, read = some validator ∧ Tests v validator := by
  unfold test at clean
  split at clean
  · next s =>
    obtain ⟨validator, rfl, described⟩ := testOf_of_gives clean
    exact ⟨validator, rfl, tests_text_of_tests_map described⟩
  · exact testOf_of_gives clean
  · simp at clean

end PromptTree.Document.Reading
