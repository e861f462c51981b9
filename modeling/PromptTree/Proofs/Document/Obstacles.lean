import PromptTree.Proofs.Document.Description
import PromptTree.Proofs.Document.Stopping
import PromptTree.Proofs.Value.Wordless

/-!
What keeps a description from being checked to its end. `Blocks` says, part by part, which data is an
obstacle: a value that should become a text and has none, a source that is a list or a map, a pattern
that asks for too much, a limit that is infinite. The relations follow the data, not the reader. Main
statements: a variable and a test are read until the first obstacle in them (`stopsFor_declaration`,
`stopsFor_test`).
-/

namespace PromptTree.Document

open Reading

/-! ### Data that is an obstacle -/

/-- The pattern cannot be read, and not because of how it is written. -/
inductive PatternBlocks : Value → Obstacle → Prop where
  | fault {s : String} {fault : Regex.Fault} :
    Regex.fault? s = some fault → fault ≠ .malformed → PatternBlocks (.text s) (.pattern fault)

def flagged (entries : Entries) : Bool :=
  yesValues.any (fieldOf entries "generate").same

def sourceOf (entries : Entries) : Option Source :=
  if flagged entries then some .generated
  else match usedField? entries "source" with
    | none => some .fixed
    | some v => v.asText?.bind Source.named?

/-- A variable with an obstacle. Only what belongs to its source is an obstacle. -/
inductive VariableBlocks (entries : Entries) : Obstacle → Prop where
  | source {v : Value} : flagged entries = false → usedField? entries "source" = some v →
    v.asList?.isSome ∨ v.asMap?.isSome → VariableBlocks entries .sourceNotSimple
  | pattern {o : Obstacle} : sourceOf entries = some .generated →
    PatternBlocks (fieldOf entries "pattern") o → VariableBlocks entries o
  | option {items : List Value} {item : Value} : sourceOf entries = some .generated →
    usedField? entries "options" = some (.list items) → item ∈ items → item.Wordless →
    VariableBlocks entries .noText
  | value : sourceOf entries = some .fixed → (fieldOf entries "value").Wordless →
    VariableBlocks entries .noText
  | limit {address : String} {negative : Bool} : sourceOf entries = some .download →
    addressOf entries = .text address → Text.trim address ≠ "" →
    fieldOf entries "limit" = .float (.infinite negative) → VariableBlocks entries .limitInfinite

/-- An item with an obstacle: a map that declares a variable. -/
inductive DeclarationBlocks : Value → Obstacle → Prop where
  | map {entries : Entries} {name : String} {o : Obstacle} :
    fieldOf entries "name" = .text name → isName name = true → VariableBlocks entries o →
    DeclarationBlocks (.map entries) o

inductive TestBlocks : Value → Obstacle → Prop where
  | map {entries : Entries} {text : String} {o : Obstacle} : fieldOf entries "text" = .text text →
    PatternBlocks (fieldOf entries "pattern") o → TestBlocks (.map entries) o

/-- A value to return in which something that is to be a text has none. -/
inductive ReturnBlocks : Value → Prop where
  | item {items : List Value} {item : Value} : item ∈ items → ReturnBlocks item →
    ReturnBlocks (.list items)
  | itemOfMap {entries : Entries} {items : List Value} {item : Value} :
    Entries.get? entries "items" = some (.list items) → item ∈ items → ReturnBlocks item →
    ReturnBlocks (.map entries)
  | value {entries : Entries} : Entries.get? entries "items" = none →
    (fieldOf entries "value").Wordless → ReturnBlocks (.map entries)

/-- A step with an obstacle, in itself or in a child. -/
inductive StepBlocks : Value → Obstacle → Prop where
  | variableOf {entries : Entries} {items : List Value} {item : Value} {o : Obstacle} :
    fieldOf entries "vars" = .list items → item ∈ items → DeclarationBlocks item o →
    StepBlocks (.map entries) o
  | test {entries : Entries} {items : List Value} {item : Value} {o : Obstacle} :
    fieldOf entries "tests" = .list items → item ∈ items → TestBlocks item o →
    StepBlocks (.map entries) o
  | returned {entries : Entries} {v : Value} : Entries.get? entries "return" = some v →
    ReturnBlocks v → StepBlocks (.map entries) .noText
  | child {entries : Entries} {items : List Value} {item : Value} {o : Obstacle} :
    fieldOf entries "steps" = .list items → item ∈ items → StepBlocks item o →
    StepBlocks (.map entries) o

inductive Blocks (entries : Entries) : Obstacle → Prop where
  | context {given : Entries} {entry : Value × Value} :
    Entries.get? entries "context" = some (.map given) → entry ∈ given → entry.2.Wordless →
    Blocks entries .noText
  | root {root : Value} {o : Obstacle} : Entries.get? entries "root" = some root →
    StepBlocks root o → Blocks entries o

namespace Reading

/-! ### Values -/

theorem stopsFor_text (v : Value) : StopsFor (text v) fun o => o = .noText ∧ v.Wordless := by
  unfold text
  cases read : v.toText with
  | ok s =>
    refine .of_clear (clear_of s) ?_
    rintro _ ⟨_, wordless⟩
    have noText : v.toText = .error .noText := Value.toText_eq_error_iff.mpr wordless
    rw [noText] at read
    cases read
  | error e =>
    have wordless := Value.toText_eq_error_iff.mp read
    exact (StopsFor.stop .noText).congr (by simp [wordless])

theorem stopsFor_texts (vs : List Value) :
    StopsFor (texts vs) fun o => o = .noText ∧ ∃ v ∈ vs, v.Wordless := by
  induction vs with
  | nil => exact .of_clear (clear_of []) (by simp)
  | cons v vs inductionHypothesis =>
    have rest (s : String) := inductionHypothesis.before fun rest => clear_pure (s :: rest)
    exact ((stopsFor_text v).bind fun s _ => rest s).congr (by simp [and_or_left])

theorem clear_knownKeys (path : String) (unknown : String → Mistake) (fields : List String)
    (entries : Entries) : (knownKeys path unknown fields entries).Clear := by
  induction entries with
  | nil => exact clear_of ()
  | cons entry rest inductionHypothesis =>
    unfold knownKeys
    split <;> simp [inductionHypothesis]

theorem comes_flag {path key : String} {v : Value} {b : Bool} (comes : (flag path key v).Comes b) :
    b = yesValues.any v.same := by
  unfold flag at comes
  split at comes
  · next yes => simp_all
  · next noYes =>
    split at comes <;> simp_all [comes_bind]

theorem clear_flag (path key : String) (v : Value) : (flag path key v).Clear := by
  unfold flag
  split
  · exact clear_of true
  · split <;> simp

theorem stopsFor_pattern (path : String) (v : Value) :
    StopsFor (pattern path v) (PatternBlocks v) := by
  unfold pattern
  split
  · exact .of_clear (clear_of none) (by rintro _ ⟨⟩)
  · next s =>
    split
    · next empty =>
      obtain rfl : s = "" := by simpa using empty
      refine .of_clear (clear_of none) ?_
      rintro _ ⟨found, _⟩
      cases found
    · split
      · next readable =>
        refine .of_clear (clear_of (some s)) ?_
        rintro _ ⟨found, _⟩
        rw [readable] at found
        cases found
      · next malformed =>
        refine .of_clear (by simp) ?_
        rintro _ ⟨found, other⟩
        rw [malformed] at found
        cases found
        exact other rfl
      · next fault other found =>
        refine (StopsFor.stop (.pattern fault)).congr ?_
        intro o
        constructor
        · rintro rfl
          exact .fault found (by rintro rfl; exact other rfl)
        · rintro ⟨same, _⟩
          rw [found] at same
          cases same
          rfl
  · next noText =>
    refine .of_clear (by simp) ?_
    rintro _ ⟨_, _⟩
    exact noText _ rfl

theorem stopsFor_wholeNumber (v : Value) :
    StopsFor (wholeNumber v) fun o =>
      o = .limitInfinite ∧ ∃ negative, v = .float (.infinite negative) := by
  unfold wholeNumber
  split
  · next x =>
    split
    · next n truncated =>
      refine .of_clear (clear_of _) ?_
      rintro _ ⟨_, negative, ⟨⟩⟩
      cases truncated
    · split
      · next negative => exact (StopsFor.stop .limitInfinite).congr (by simp)
      · next finite =>
        refine .of_clear (clear_of none) ?_
        rintro _ ⟨_, negative, ⟨⟩⟩
        exact finite negative rfl
  · exact .of_clear (clear_of _) (by simp)
  · exact .of_clear (clear_of _) (by simp)
  · next noFloat _ _ => exact .of_clear (clear_of _) (by simp_all)

theorem stopsFor_limit (path name : String) (v : Value) :
    StopsFor (limit path name v) fun o =>
      o = .limitInfinite ∧ ∃ negative, v = .float (.infinite negative) := by
  unfold limit
  split
  · exact .of_clear (clear_of none) (by simp)
  · refine (stopsFor_wholeNumber _).before ?_
    intro number
    cases number with
    | none => simp
    | some n =>
      by_cases positive : 0 < n <;> simp [positive]

/-! ### Variables and tests -/

theorem comes_source {path name : String} {entries : Entries} {read : Option Source}
    (comes : (source path name entries).Comes read) : read = sourceOf entries := by
  obtain ⟨b, flagRead, comes⟩ := comes_bind.mp comes
  obtain rfl := comes_flag flagRead
  unfold sourceOf flagged
  split at comes
  · next yes =>
    rw [if_pos yes]
    exact (comes_pure.mp comes).symm
  · next noYes =>
    rw [if_neg noYes]
    cases used : usedField? entries "source" with
    | none =>
      rw [used] at comes
      exact (comes_pure.mp comes).symm
    | some v =>
      rw [used] at comes
      dsimp only at comes
      split at comes
      · simp [comes_bind] at comes
      · cases named : v.asText?.bind Source.named? with
        | none =>
          simp only [named, comes_bind, comes_pure] at comes
          obtain ⟨_, _, rfl⟩ := comes
          exact named.symm
        | some source =>
          simp only [named, comes_pure] at comes
          rw [← comes]
          exact named.symm

theorem stopsFor_source (path name : String) (entries : Entries) :
    StopsFor (source path name entries) fun o => o = .sourceNotSimple ∧ flagged entries = false ∧
      ∃ v, usedField? entries "source" = some v ∧ (v.asList?.isSome ∨ v.asMap?.isSome) := by
  unfold source
  refine .after (clear_flag _ _ _) ?_
  intro b flagRead
  obtain rfl := comes_flag flagRead
  split
  · next yes => exact .of_clear (clear_pure _) (by simp [flagged, yes])
  · next noYes =>
    have unflagged : flagged entries = false := by simpa [flagged] using noYes
    cases used : usedField? entries "source" with
    | none => exact .of_clear (clear_pure _) (by simp)
    | some v =>
      dsimp only
      split
      · next structured =>
        refine ((StopsFor.stop .sourceNotSimple).before fun _ => ?_).congr ?_
        · cases v.asText?.bind Source.named? <;> simp
        · simpa [unflagged] using structured
      · next simple =>
        refine .of_clear ?_ ?_
        · cases v.asText?.bind Source.named? <;> simp
        · simpa [unflagged] using simple

theorem clear_options (path name : String) (entries : Entries) :
    (options path name entries).Clear := by
  unfold options
  split <;> simp

theorem exists_mem_of_comes_options {path name : String} {entries : Entries} {chosen : List Value}
    (comes : (options path name entries).Comes chosen) (holds : Value → Prop) :
    (∃ v ∈ chosen, holds v) ↔
      ∃ items, usedField? entries "options" = some (.list items) ∧ ∃ v ∈ items, holds v := by
  unfold options at comes
  split at comes
  · next unused =>
    obtain rfl := comes_of.mp comes
    simp [unused]
  · next items used =>
    obtain rfl := comes_of.mp comes
    simp [used]
  · next noList used =>
    obtain ⟨_, _, comes⟩ := comes_bind.mp comes
    obtain rfl := comes_pure.mp comes
    simp only [used, Option.some.injEq, List.not_mem_nil, false_and, exists_false, false_iff]
    rintro ⟨items, rfl, _⟩
    exact noList items rfl

theorem stopsFor_generated (path name : String) (entries : Entries) :
    StopsFor (generated path name entries) fun o =>
      PatternBlocks (fieldOf entries "pattern") o ∨ o = .noText ∧
        ∃ items, usedField? entries "options" = some (.list items) ∧ ∃ v ∈ items, v.Wordless := by
  unfold generated
  refine .after (clear_options _ _ _) fun chosen chosenRead => ?_
  refine (stopsFor_pattern _ _).bind fun pattern _ => ?_
  refine .after (clear_flag _ _ _) fun required _ => ?_
  have chosenTexts := (stopsFor_texts chosen).before fun texts =>
    clear_pure (⟨name, pattern, required, texts⟩ : Generated)
  exact chosenTexts.congr fun o => and_congr_right fun _ =>
    exists_mem_of_comes_options chosenRead Value.Wordless

theorem clear_conversion (path name : String) (entries : Entries) :
    (conversion path name entries).Clear := by
  unfold conversion
  split
  · exact clear_of _
  · split <;> simp

theorem stopsFor_download (path name : String) (entries : Entries) :
    StopsFor (download path name entries) fun o =>
      (∃ address, addressOf entries = .text address ∧ Text.trim address ≠ "") ∧
        o = .limitInfinite ∧ ∃ negative, fieldOf entries "limit" = .float (.infinite negative) := by
  unfold download
  rw [← addressOf]
  dsimp only
  split
  · next unused =>
    refine .of_clear (by simp) ?_
    rintro o ⟨⟨address, isText, used⟩, _⟩
    simp_all [Value.asText?]
  · next source used =>
    have isUsed : ∃ address, addressOf entries = .text address ∧ Text.trim address ≠ "" := by
      simp only [Option.filter_eq_some_iff, Option.map_eq_some_iff,
        Value.asText?_eq_some_iff] at used
      obtain ⟨⟨address, isText, rfl⟩, notEmpty⟩ := used
      exact ⟨address, isText, by simpa using notEmpty⟩
    refine (StopsFor.after (clear_conversion _ _ _) fun conversion _ =>
      (stopsFor_limit _ _ _).before fun limit => clear_pure _).congr ?_
    simp [isUsed]

theorem variableBlocks_iff {entries : Entries} {o : Obstacle} :
    VariableBlocks entries o ↔
      (o = .sourceNotSimple ∧ flagged entries = false ∧
        ∃ v, usedField? entries "source" = some v ∧ (v.asList?.isSome ∨ v.asMap?.isSome)) ∨
      (sourceOf entries = some .generated ∧ (PatternBlocks (fieldOf entries "pattern") o ∨
        o = .noText ∧
          ∃ items, usedField? entries "options" = some (.list items) ∧ ∃ v ∈ items, v.Wordless)) ∨
      (sourceOf entries = some .fixed ∧ o = .noText ∧ (fieldOf entries "value").Wordless) ∨
      (sourceOf entries = some .download ∧
        (∃ address, addressOf entries = .text address ∧ Text.trim address ≠ "") ∧
        o = .limitInfinite ∧ ∃ negative, fieldOf entries "limit" = .float (.infinite negative)) := by
  constructor
  · rintro (⟨unflagged, used, structured⟩ | ⟨isGenerated, blocked⟩ |
      ⟨isGenerated, used, isItem, wordless⟩ | ⟨isFixed, wordless⟩ |
      ⟨isDownload, isText, notEmpty, infinite⟩)
    · exact .inl ⟨rfl, unflagged, _, used, structured⟩
    · exact .inr (.inl ⟨isGenerated, .inl blocked⟩)
    · exact .inr (.inl ⟨isGenerated, .inr ⟨rfl, _, used, _, isItem, wordless⟩⟩)
    · exact .inr (.inr (.inl ⟨isFixed, rfl, wordless⟩))
    · exact .inr (.inr (.inr ⟨isDownload, ⟨_, isText, notEmpty⟩, rfl, _, infinite⟩))
  · rintro (⟨rfl, unflagged, v, used, structured⟩ |
      ⟨isGenerated, blocked | ⟨rfl, items, used, v, isItem, wordless⟩⟩ | ⟨isFixed, rfl, wordless⟩ |
      ⟨isDownload, ⟨address, isText, notEmpty⟩, rfl, negative, infinite⟩)
    · exact .source unflagged used structured
    · exact .pattern isGenerated blocked
    · exact .option isGenerated used isItem wordless
    · exact .value isFixed wordless
    · exact .limit isDownload isText notEmpty infinite

theorem stopsFor_named (path name : String) (entries : Entries) :
    StopsFor (named path name entries) (VariableBlocks entries) := by
  unfold named
  refine ((stopsFor_source path name entries).bind fun read sourceRead => ?_).congr fun o =>
    variableBlocks_iff.symm
  obtain rfl := comes_source sourceRead
  cases sourceOf entries with
  | none => exact .of_clear (clear_pure _) (by simp)
  | some source =>
    cases source with
    | fixed =>
      exact ((stopsFor_text _).before fun value => clear_pure _).congr (by simp)
    | generated =>
      exact ((stopsFor_generated path name entries).before fun g => clear_pure _).congr (by simp)
    | download =>
      exact ((stopsFor_download path name entries).before fun d => clear_pure _).congr (by simp)

theorem stopsFor_declaration (path : String) (v : Value) :
    StopsFor (declaration path v) (DeclarationBlocks v) := by
  unfold declaration
  split
  · next entries =>
    refine .after (clear_knownKeys _ _ _ _) fun _ _ => ?_
    dsimp only
    split
    · next name named =>
      obtain ⟨isText, isName⟩ := Option.filter_eq_some_iff.mp named
      rw [Value.asText?_eq_some_iff] at isText
      refine (stopsFor_named path name entries).congr fun o => ⟨.map isText isName, ?_⟩
      rintro ⟨_, _, blocked⟩
      exact blocked
    · next unnamed =>
      refine .of_clear (by simp) ?_
      rintro o ⟨isText, isName, _⟩
      simp [isText, isName, Value.asText?] at unnamed
  · next noMap =>
    refine .of_clear (by simp) ?_
    rintro o ⟨_, _, _⟩
    exact noMap _ rfl

theorem clear_expectation (path : String) (entries : Entries) :
    (expectation path entries).Clear := by
  unfold expectation
  split
  · exact clear_of _
  · split <;> simp

theorem stopsFor_testOf (path : String) (entries : Entries) :
    StopsFor (testOf path entries) (TestBlocks (.map entries)) := by
  unfold testOf
  refine .after (clear_knownKeys _ _ _ _) fun _ _ => ?_
  split
  · next s isText =>
    refine .after (clear_expectation _ _) fun expect _ => ?_
    refine ((stopsFor_pattern _ _).before fun pattern => clear_pure _).congr fun o => ?_
    refine ⟨.map isText, ?_⟩
    rintro ⟨_, blocked⟩
    exact blocked
  · next noText =>
    refine .of_clear (by simp) ?_
    rintro o ⟨isText, _⟩
    exact noText _ isText

theorem stopsFor_test (path : String) (v : Value) :
    StopsFor (test path v) (TestBlocks v) := by
  unfold test
  split
  · next s =>
    refine (stopsFor_testOf _ _).congr fun o => ⟨?_, ?_⟩
    · rintro ⟨_, blocked⟩
      cases blocked
    · rintro ⟨⟩
  · exact stopsFor_testOf _ _
  · next noMap =>
    refine .of_clear (by simp) ?_
    rintro o ⟨_, _⟩
    exact noMap _ rfl

end Reading

end PromptTree.Document
