import Mathlib.Tactic.ByContra
import PromptTree.Proofs.Document.Steps
import PromptTree.Proofs.Document.Writing
import PromptTree.Proofs.Text.Number

/-!
Written steps are read back. A form of data is legible if its truth values are read as what they
stand for; whether its numbers are depends on the number (`Legible`). Main statement: a step that is
written in such a form is read without a problem, and as it was (`gives_step`).
-/

namespace PromptTree.Document

open Reading

variable {form : Form} {path : String}

/-! ### Fields -/

section

variable {fields : List String} {key other : String} {used : Bool} {v : Value}

@[simp] theorem onlyFields_append_iff {entries more : Entries} :
    OnlyFields fields (entries ++ more) ↔ OnlyFields fields entries ∧ OnlyFields fields more :=
  List.forall_mem_append

@[simp] theorem onlyFields_cons_iff {entries : Entries} :
    OnlyFields fields ((.text key, v) :: entries) ↔ key ∈ fields ∧ OnlyFields fields entries := by
  simp [OnlyFields]

@[simp] theorem onlyFields_nil : OnlyFields fields [] := by
  simp [OnlyFields]

@[simp] theorem onlyFields_field (known : key ∈ fields) :
    OnlyFields fields (form.field key used v) := by
  unfold Form.field
  split
  · simpa using known
  · exact onlyFields_nil

theorem gives_knownKeys {unknown : String → Mistake} {entries : Entries}
    (only : OnlyFields fields entries) : (knownKeys path unknown fields entries).Gives () := by
  induction entries with
  | nil => exact gives_of.mpr rfl
  | cons entry rest inductionHypothesis =>
    obtain ⟨⟨field, known, isField⟩, rest⟩ := List.forall_mem_cons.mp only
    obtain ⟨key, v⟩ := entry
    dsimp only at isField
    subst isField
    have isKnown : (Value.text field).asText?.any fields.contains = true := by
      simpa [Value.asText?] using known
    unfold knownKeys
    rw [if_pos isKnown]
    exact inductionHypothesis rest

@[simp] theorem get?_field :
    Entries.get? (form.field key used v) other =
      if key = other ∧ (used = true ∨ form.complete = true) then some v else none := by
  unfold Form.field
  by_cases isWritten : used = true ∨ form.complete = true
  · rw [if_pos (by simpa using isWritten), Entries.get?_cons]
    simp [isWritten]
  · rw [if_neg (by simpa using isWritten)]
    simp [isWritten]

end

/-! ### Values of fields -/

theorem gives_pattern {kept : Option String} (keeps : KeptPattern kept) :
    (pattern path (written kept)).Gives kept := by
  cases kept with
  | none => exact gives_of.mpr rfl
  | some text =>
    obtain ⟨notEmpty, regex, isRegex⟩ := keeps text rfl
    have noFault : Regex.fault? text = none := by
      unfold Regex.fault?
      rw [isRegex]
    unfold pattern written
    dsimp only
    rw [if_neg (by simpa using notEmpty), noFault]
    exact gives_of.mpr rfl

theorem gives_texts (ss : List String) : (texts (ss.map .text)).Gives ss := by
  induction ss with
  | nil => exact gives_of.mpr rfl
  | cons s ss inductionHypothesis =>
    simp only [List.map_cons, texts, gives_bind, gives_pure]
    exact ⟨s, gives_of.mpr rfl, ss, inductionHypothesis, rfl⟩

theorem trim_eq_self {s : String} (trimmed : Trimmed s) : Text.trim s = s := by
  unfold Text.trim
  rw [Text.trimWhile_eq_self trimmed.1 trimmed.2, String.ofList_toList]

theorem named?_name (conversion : Html.Conversion) :
    Html.Conversion.named? conversion.name = some conversion := by
  cases conversion <;> decide

/-- The truth values of the form are read as what they stand for. -/
def Form.Legible (form : Form) : Prop :=
  ∀ path key b, (flag path key (form.yesNo b)).Gives b

/-- The number is read back when it is the limit of a download. -/
def Form.Counts (form : Form) (n : Int) : Prop :=
  ∀ path name, (limit path name (form.number n)).Gives (some n)

theorem legible_native : native.Legible := by
  intro path key b
  cases b <;> exact gives_of.mpr rfl

theorem legible_textual : textual.Legible := by
  intro path key b
  cases b <;> exact gives_of.mpr rfl

/-- A limit that is given is kept if it is a positive number, and is a problem otherwise. -/
theorem gives_limit_iff {name : String} {v : Value} {kept : Option Int} (given : v ≠ .null) :
    (limit path name v).Gives kept ↔
      ∃ n, (wholeNumber v).Gives (some n) ∧ 0 < n ∧ kept = some n := by
  unfold limit
  split
  · exact absurd rfl given
  · rw [gives_bind]
    constructor
    · rintro ⟨found, isFound, read⟩
      cases found with
      | none => simp at read
      | some n =>
        by_cases positive : 0 < n
        · simp only [positive, if_true, gives_pure] at read
          exact ⟨n, isFound, positive, read.symm⟩
        · simp [positive] at read
    · rintro ⟨n, isFound, positive, rfl⟩
      refine ⟨some n, isFound, ?_⟩
      simp [positive]

theorem counts_native {n : Int} (positive : 1 ≤ n) : native.Counts n := by
  intro path name
  rw [gives_limit_iff (by exact nofun)]
  exact ⟨n, gives_of.mpr rfl, positive, rfl⟩

/-- Written as a text, a number is read only if it does not have too many digits. -/
theorem gives_wholeNumber_textual {n : Int} (positive : 1 ≤ n) {found : Option Int} :
    (wholeNumber (textual.number n)).Gives found ↔
      found = if n.toNat < 10 ^ Text.maxNumberDigits then some n else none := by
  obtain ⟨m, rfl⟩ := Int.eq_ofNat_of_zero_le (by omega : 0 ≤ n)
  rw [Int.toNat_natCast, ← Text.readInt?_toString]
  exact gives_of.trans eq_comm

theorem counts_textual {n : Int} (positive : 1 ≤ n)
    (bounded : n.toNat < 10 ^ Text.maxNumberDigits) : textual.Counts n := by
  intro path name
  rw [gives_limit_iff (by exact nofun)]
  exact ⟨n, (gives_wholeNumber_textual positive).mpr (if_pos bounded).symm, positive, rfl⟩

/-! ### Variables and tests -/

theorem fieldOf_eq {entries : Entries} {key : String} {v : Value}
    (found : Entries.get? entries key = some v) : fieldOf entries key = v := by
  unfold fieldOf
  rw [found]
  rfl

theorem gives_source {name : String} {entries : Entries} {given : String} {chosen : Source}
    (noGenerate : Entries.get? entries "generate" = none)
    (isGiven : Entries.get? entries "source" = some (.text given)) (used : given ≠ "")
    (isSource : Source.named? given = some chosen) :
    (source path name entries).Gives (some chosen) := by
  have isUsed : usedField? entries "source" = some (.text given) := by
    unfold usedField?
    rw [isGiven]
    simp [Value.isTruthy, used]
  unfold source
  rw [gives_bind]
  refine ⟨false, ?_, ?_⟩
  · unfold fieldOf
    rw [noGenerate]
    exact gives_of.mpr rfl
  · rw [isUsed]
    simp [Value.asText?, Value.asList?, Value.asMap?, isSource]

theorem fieldOf_written (form : Form) {entries : Entries} {key : String} {kept : Option String}
    (found : Entries.get? entries key =
      if kept.isSome = true ∨ form.complete = true then some (written kept) else none) :
    fieldOf entries key = written kept := by
  unfold fieldOf
  rw [found]
  cases kept with
  | none => split <;> rfl
  | some s => rfl

theorem gives_generated (legible : form.Legible) {g : Generated} (keeps : KeptPattern g.pattern) :
    (generated path g.name (form.variableData (.generated g))).Gives g := by
  have isPattern : fieldOf (form.variableData (.generated g)) "pattern" = written g.pattern := by
    apply fieldOf_written form
    simp [Form.variableData]
  have isRequired :
      fieldOf (form.variableData (.generated g)) "required" = form.yesNo g.required := by
    apply fieldOf_eq
    simp [Form.variableData]
  have isOptions : (options path g.name (form.variableData (.generated g))).Gives
      (g.options.map .text) := by
    have found : Entries.get? (form.variableData (.generated g)) "options" =
        if (!g.options.isEmpty) = true ∨ form.complete = true then
          some (.list (g.options.map .text))
        else none := by
      simp [Form.variableData]
    unfold options usedField?
    rw [found]
    cases g.options with
    | nil =>
      cases form.complete with
      | true => exact gives_of.mpr rfl
      | false => exact gives_of.mpr rfl
    | cons option options => exact gives_of.mpr rfl
  simp only [generated, gives_bind, gives_pure, isPattern, isRequired]
  exact ⟨_, isOptions, _, gives_pattern keeps, _, legible _ _ _, _, gives_texts _, rfl⟩

/-- The address of a written download is what is kept of it, so only its conversion and its limit
are left to be read. -/
theorem gives_download_iff (form : Form) {d : Download} (notEmpty : d.source ≠ "")
    (trimmed : Trimmed d.source) {found : Option Download} :
    (download path d.name (form.variableData (.download d))).Gives found ↔
      ∃ converted, (conversion path d.name (form.variableData (.download d))).Gives converted ∧
        ∃ bound, (limit path d.name (fieldOf (form.variableData (.download d)) "limit")).Gives bound ∧
          some ⟨d.name, d.source, converted, bound⟩ = found := by
  have noAddress : Entries.get? (form.variableData (.download d)) "url" = none := by
    simp [Form.variableData]
  have isSource : fieldOf (form.variableData (.download d)) "value" = .text d.source := by
    apply fieldOf_eq
    simp [Form.variableData]
  have isAddress : (some d.source).filter (!·.isEmpty) = some d.source := by simp [notEmpty]
  unfold download
  simp only [noAddress, isSource, Option.getD_none, Value.asText?, Option.map_some,
    trim_eq_self trimmed, isAddress, gives_bind, gives_pure]

theorem fieldOf_limit (form : Form) (d : Download) :
    fieldOf (form.variableData (.download d)) "limit" = d.limit.elim .null form.number := by
  have found : Entries.get? (form.variableData (.download d)) "limit" =
      if d.limit.isSome = true ∨ form.complete = true then some (d.limit.elim .null form.number)
      else none := by
    simp [Form.variableData]
  unfold fieldOf
  rw [found]
  cases d.limit with
  | none => split <;> rfl
  | some n => rfl

theorem gives_download {d : Download} (notEmpty : d.source ≠ "") (trimmed : Trimmed d.source)
    (counts : ∀ n, d.limit = some n → form.Counts n) :
    (download path d.name (form.variableData (.download d))).Gives (some d) := by
  have isConversion : (conversion path d.name (form.variableData (.download d))).Gives
      d.conversion := by
    have found : usedField? (form.variableData (.download d)) "postprocess" =
        some (.text d.conversion.name) := by
      unfold usedField?
      simp only [Form.variableData]
      cases d.conversion <;> rfl
    unfold conversion
    rw [found]
    simp [Value.asText?, named?_name]
  have isLimit : (limit path d.name (fieldOf (form.variableData (.download d)) "limit")).Gives
      d.limit := by
    rw [fieldOf_limit]
    cases bound : d.limit with
    | none => exact gives_of.mpr rfl
    | some n => exact counts n bound path d.name
  rw [gives_download_iff form notEmpty trimmed]
  exact ⟨_, isConversion, _, isLimit, rfl⟩

theorem onlyFields_variableData (form : Form) (declaration : Declaration) :
    OnlyFields variableFields (form.variableData declaration) := by
  cases declaration with
  | fixed name template => simp [Form.variableData, variableFields]
  | generated g => simp [Form.variableData, variableFields]
  | download d => simp [Form.variableData, variableFields]

/-- The limit of a declaration, if it is that of a download and has one, is read back. -/
def Form.CountsFor (form : Form) (declaration : Declaration) : Prop :=
  ∀ d, declaration = .download d → ∀ n, d.limit = some n → form.Counts n

theorem gives_named (legible : form.Legible) {declaration : Declaration}
    (sound : SoundDeclaration declaration) (counts : form.CountsFor declaration) :
    (named path declaration.name (form.variableData declaration)).Gives (some declaration) := by
  unfold named
  rw [gives_bind]
  cases sound with
  | fixed name template =>
    refine ⟨some .fixed, gives_source rfl rfl (by decide) rfl, ?_⟩
    simp only [gives_bind, gives_pure]
    exact ⟨template, gives_of.mpr rfl, rfl⟩
  | @generated g keeps =>
    refine ⟨some .generated, gives_source ?_ rfl (by decide) rfl, ?_⟩
    · simp [Form.variableData]
    · simp only [gives_bind, gives_pure]
      exact ⟨g, gives_generated legible keeps, rfl⟩
  | @download d notEmpty trimmed _ =>
    refine ⟨some .download, gives_source ?_ rfl (by decide) rfl, ?_⟩
    · simp [Form.variableData]
    · simp only [gives_bind, gives_pure]
      exact ⟨some d, gives_download notEmpty trimmed (counts d rfl), rfl⟩

theorem gives_declaration (legible : form.Legible) {d : Declaration} (sound : SoundDeclaration d)
    (isNamed : isName d.name = true) (counts : form.CountsFor d) :
    (declaration path (.map (form.variableData d))).Gives (some d) := by
  have stands : fieldOf (form.variableData d) "name" = .text d.name := by
    cases d <;> rfl
  have accepted : (some d.name).filter isName = some d.name := by simp [isNamed]
  unfold declaration
  rw [gives_bind]
  refine ⟨(), gives_knownKeys (onlyFields_variableData form d), ?_⟩
  simp only [stands, Value.asText?, accepted]
  exact gives_named legible sound counts

theorem onlyFields_testData (form : Form) (v : Validator) :
    OnlyFields testFields (form.testData v) := by
  simp [Form.testData, testFields]

theorem gives_test {v : Validator} (keeps : KeptPattern v.pattern)
    (expected : v.expect = "yes" ∨ v.expect = "no") :
    (test path (.map (form.testData v))).Gives (some v) := by
  have isText : fieldOf (form.testData v) "text" = .text v.text := rfl
  have isPattern : fieldOf (form.testData v) "pattern" = written v.pattern := by
    apply fieldOf_written form
    simp [Form.testData]
  have isExpectation : (expectation path (form.testData v)).Gives v.expect := by
    have found : Entries.get? (form.testData v) "expect" = some (.text v.expect) := by
      simp [Form.testData]
    unfold expectation usedField?
    rw [found]
    rcases expected with isYes | isNo
    · rw [isYes]
      exact gives_of.mpr rfl
    · rw [isNo]
      exact gives_of.mpr rfl
  unfold test testOf
  rw [gives_bind]
  refine ⟨(), gives_knownKeys (onlyFields_testData form v), ?_⟩
  simp only [isText, isPattern, gives_bind, gives_pure]
  exact ⟨_, isExpectation, _, gives_pattern keeps, rfl⟩

theorem gives_numbered {α : Type} {read : String → Value → Reading (Option α)} {write : α → Value}
    {key : String} {as : List α} (each : ∀ a ∈ as, ∀ path, (read path (write a)).Gives (some a))
    (i : Nat) : (numbered read path key i (as.map write)).Gives as := by
  induction as generalizing i with
  | nil => exact gives_of.mpr rfl
  | cons a as inductionHypothesis =>
    rw [List.forall_mem_cons] at each
    simp only [List.map_cons, numbered, gives_bind, gives_pure]
    exact ⟨some a, each.1 _, as, inductionHypothesis each.2 (i + 1), rfl⟩

/-! ### Projections -/

/-- The projection can be written: no part of it is without a template or items. -/
def Writable (projection : Projection) : Prop :=
  ∀ part ∈ projection.parts, part.WellFormed ∧ part ≠ .leaf none ∧ part ≠ .record []

theorem get?_of_onlyFields {fields : List String} {entries : Entries} {key : String}
    (only : OnlyFields fields entries) (unknown : key ∉ fields) :
    Entries.get? entries key = none := by
  induction entries with
  | nil => rfl
  | cons entry rest inductionHypothesis =>
    obtain ⟨⟨field, known, isField⟩, rest⟩ := List.forall_mem_cons.mp only
    obtain ⟨key, v⟩ := entry
    dsimp only at isField
    subst isField
    have different : field ≠ key := by
      rintro rfl
      exact unknown known
    rw [Entries.get?_cons, if_neg different]
    exact inductionHypothesis rest

theorem itemsField_eq (path : String) (hasValue : Bool) (entries : Entries) :
    itemsField path hasValue entries = (
      match Entries.get? entries "items" with
      | none => of none
      | some v => do
        if hasValue then note path .valueAndItems
        some <$> itemList path v) := by
  induction entries with
  | nil => rfl
  | cons entry rest inductionHypothesis =>
    obtain ⟨key, v⟩ := entry
    unfold itemsField Entries.get? Entries.find?
    split
    · rfl
    · exact inductionHypothesis

theorem gives_itemsField {entries : Entries} {raw : List Value}
    {items : List (Option String × Projection)}
    (isItems : Entries.get? entries "items" = some (.list raw))
    (read : (items' path 0 raw).Gives items) :
    (itemsField path false entries).Gives (some (.ofItems items)) := by
  rw [itemsField_eq, isItems]
  have list : (itemList path (.list raw)).Gives (.ofItems items) := by
    simp only [itemList, gives_bind, gives_pure]
    exact ⟨items, read, rfl⟩
  exact gives_map.mpr ⟨_, list, rfl⟩

theorem onlyFields_returnData (form : Form) (projection : Projection) {naming : Entries}
    (only : OnlyFields ["name"] naming) :
    OnlyFields returnFields (form.returnData projection ++ naming) := by
  refine onlyFields_append_iff.mpr ⟨?_, ?_⟩
  · cases projection <;> simp [Form.returnData, returnFields]
  · intro entry isEntry
    obtain ⟨field, isField, isKey⟩ := only entry isEntry
    exact ⟨field, List.mem_cons.mpr (.inl (List.mem_singleton.mp isField)), isKey⟩

theorem gives_itemName {projection : Projection} {name : Option String} (notEmpty : name ≠ some "") :
    (itemName path (.map (form.returnData projection ++
      form.field "name" name.isSome (written name)))).Gives name := by
  have stands : fieldOf (form.returnData projection ++
      form.field "name" name.isSome (written name)) "name" = written name := by
    apply fieldOf_written form
    cases projection <;> simp [Form.returnData]
  unfold itemName
  simp only [stands]
  cases name with
  | none => exact gives_of.mpr rfl
  | some s =>
    have used : s ≠ "" := by simpa using notEmpty
    simp [written, used]

theorem ofItems_of_ne_nil {items : List (Option String × Projection)} (notEmpty : items ≠ []) :
    Projection.ofItems items = .record items := by
  cases items with
  | nil => exact absurd rfl notEmpty
  | cons item items => rfl

mutual

/-- A projection is read back, also from among other fields that only name it. -/
theorem gives_projection : (read : Projection) → Writable read → {path : String} →
    {naming : Entries} → OnlyFields ["name"] naming →
      (projection path (.map (form.returnData read ++ naming))).Gives read
  | .leaf none, writable, _, _, _ => absurd rfl (writable _ List.mem_cons_self).2.1
  | .leaf (some template), _, path, naming, only => by
    have noItems : Entries.get? (form.returnData (.leaf (some template)) ++ naming) "items" =
        none := by
      rw [Entries.get?_append, get?_of_onlyFields only (by decide)]
      rfl
    simp only [projection, gives_bind]
    refine ⟨(), gives_knownKeys (onlyFields_returnData form _ only), none, ?_, ?_⟩
    · rw [itemsField_eq, noItems]
      exact gives_of.mpr rfl
    · simp only [leaf, gives_bind, gives_pure]
      exact ⟨template, gives_of.mpr rfl, rfl⟩
  | .record items, writable, path, naming, only => by
    have noValue : Entries.get? (form.returnData (.record items) ++ naming) "value" = none := by
      rw [Entries.get?_append, get?_of_onlyFields only (by decide)]
      rfl
    obtain ⟨⟨⟨named, _⟩, _, notEmpty⟩, writable⟩ := List.forall_mem_cons.mp writable
    have isRecord : Projection.ofItems items = .record items :=
      ofItems_of_ne_nil fun none => notEmpty (congrArg Projection.record none)
    have read : (itemsField path false (form.returnData (.record items) ++ naming)).Gives
        (some (.ofItems items)) := gives_itemsField rfl (gives_items items named writable 0)
    rw [isRecord] at read
    simp only [projection, gives_bind, noValue]
    exact ⟨(), gives_knownKeys (onlyFields_returnData form _ only), _, read, gives_pure.mpr rfl⟩
termination_by structural read => read

theorem gives_items : (items : List (Option String × Projection)) →
    (∀ item ∈ items, item.1 ≠ some "") →
    (∀ part ∈ Projection.partsOf items,
      part.WellFormed ∧ part ≠ .leaf none ∧ part ≠ .record []) →
    {path : String} → (i : Nat) → (items' path i (form.itemsData items)).Gives items
  | [], _, _, _, _ => gives_of.mpr rfl
  | (name, read) :: items, named, writable, path, i => by
    rw [List.forall_mem_cons] at named
    rw [Projection.partsOf, List.forall_mem_append] at writable
    simp only [Form.itemsData, items', gives_bind, gives_pure]
    exact ⟨name, gives_itemName named.1, read,
      gives_projection read writable.1 (onlyFields_field List.mem_cons_self), items,
      gives_items items named.2 writable.2 (i + 1), rfl⟩
termination_by structural items => items

end

/-! ### Steps -/

theorem childrenOf_eq (path : String) (entries : Entries) :
    childrenOf path entries = (
      match Entries.get? entries "steps" with
      | none => of []
      | some v => stepList path v) := by
  induction entries with
  | nil => rfl
  | cons entry rest inductionHypothesis =>
    obtain ⟨key, v⟩ := entry
    unfold childrenOf Entries.get? Entries.find?
    split
    · rfl
    · exact inductionHypothesis

/-- A list is read back that is left out only if it is empty. -/
theorem gives_listField (form : Form) (used : Bool) {entries : Entries} {key : String}
    {items : List Value}
    (empty : used = false → items = [])
    (found : Entries.get? entries key =
      if used = true ∨ form.complete = true then some (.list items) else none) :
    (listField path key (fieldOf entries key)).Gives items := by
  unfold fieldOf
  rw [found]
  split
  · exact gives_of.mpr rfl
  · next unused =>
    rw [empty (by simpa using (not_or.mp unused).1)]
    exact gives_of.mpr rfl

theorem gives_steps {children : List Step}
    (each : ∀ child ∈ children, ∀ path, (step path (.map (form.stepData child))).Gives (some child))
    (i : Nat) : (steps path i (form.stepsData children)).Gives children := by
  rw [Form.stepsData_eq_map]
  induction children generalizing i with
  | nil => exact gives_of.mpr rfl
  | cons child children inductionHypothesis =>
    rw [List.forall_mem_cons] at each
    simp only [List.map_cons, steps, gives_bind, gives_pure]
    exact ⟨some child, each.1 _, children, inductionHypothesis each.2 (i + 1), rfl⟩

theorem onlyFields_stepData (form : Form) (step : Step) :
    OnlyFields stepFields (form.stepData step) := by
  have returned : OnlyFields stepFields (step.returns.toList.map fun projection =>
      (.text "return", .map (form.returnData projection))) := by
    cases step.returns <;> simp [stepFields]
  simpa [Form.stepData_eq, stepFields] using returned

@[simp] theorem get?_returned (returns : Option Projection) (write : Projection → Value) (key : String) :
    Entries.get? (returns.toList.map fun projection => (.text "return", write projection)) key =
      if key = "return" then returns.map write else none := by
  cases returns with
  | none => simp
  | some projection => simp [eq_comm]

theorem gives_stepName (form : Form) {entries : Entries} {name : String}
    (found : Entries.get? entries "name" =
      if (name != "") = true ∨ form.complete = true then some (.text name) else none) :
    (stepName path entries).Gives name := by
  unfold stepName usedField?
  rw [found]
  by_cases used : name = ""
  · rw [used]
    cases form.complete <;> exact gives_of.mpr rfl
  · have isUsed : (some (Value.text name)).filter Value.isTruthy = some (.text name) := by
      simp [Value.isTruthy, used]
    simp [used, isUsed]

theorem gives_prompt {entries : Entries} {kept : Option String} (notEmpty : kept ≠ some "")
    (stands : fieldOf entries "prompt" = written kept) : (prompt path entries).Gives kept := by
  unfold prompt
  rw [stands]
  cases kept with
  | none => exact gives_of.mpr rfl
  | some s =>
    have used : s ≠ "" := by simpa using notEmpty
    simp [written, used]

theorem gives_returned (form : Form) {entries : Entries} {returns : Option Projection}
    (writable : ∀ projection, returns = some projection → Writable projection)
    (found : Entries.get? entries "return" =
      returns.map fun projection => .map (form.returnData projection)) :
    (returned path entries).Gives returns := by
  unfold returned
  rw [found]
  cases returns with
  | none => exact gives_of.mpr rfl
  | some read =>
    have given : (projection s!"{path}.return" (.map (form.returnData read ++ []))).Gives read :=
      gives_projection read (writable read rfl) onlyFields_nil
    rw [List.append_nil] at given
    exact gives_map.mpr ⟨read, given, rfl⟩

theorem gives_vars (form : Form) (s : Step) (path : String) :
    (listField path "vars" (fieldOf (form.stepData s) "vars")).Gives
      (s.declarations.map fun d => .map (form.variableData d)) := by
  apply gives_listField form (!s.declarations.isEmpty)
  · simp
  · simp [Form.stepData_eq]

theorem gives_tests (form : Form) (s : Step) (path : String) :
    (listField path "tests" (fieldOf (form.stepData s) "tests")).Gives
      (s.validators.map fun v => .map (form.testData v)) := by
  apply gives_listField form (!s.validators.isEmpty)
  · simp
  · simp [Form.stepData_eq]

theorem childrenOf_stepData (form : Form) (s : Step) (path : String) :
    childrenOf path (form.stepData s) = steps path 0 (form.stepsData s.children) := by
  have found : Entries.get? (form.stepData s) "steps" =
      if (!s.children.isEmpty) = true ∨ form.complete = true then
        some (.list (form.stepsData s.children))
      else none := by
    simp [Form.stepData_eq]
  rw [childrenOf_eq, found]
  cases s.children with
  | nil => cases form.complete <;> rfl
  | cons child children => rfl

/-- The step can be written, and its numbers are read back. -/
def Form.Writes (form : Form) (node : Step) : Prop :=
  Canonical node ∧ ∀ declaration ∈ node.declarations, form.CountsFor declaration

theorem gives_step (legible : form.Legible) (s : Step) (writes : ∀ node ∈ s.nodes, form.Writes node)
    (safe : s.TextSafe) (path : String) : (step path (.map (form.stepData s))).Gives (some s) := by
  induction s using Step.byChildren generalizing path with
  | hereditary s inductionHypothesis =>
    obtain ⟨⟨canonical, counts⟩, below⟩ := Step.forall_nodes_iff.mp writes
    obtain ⟨last, safe⟩ := Step.textSafe_iff.mp safe
    simp only [step, gives_bind, gives_pure]
    refine ⟨(), gives_knownKeys (onlyFields_stepData form s), s.name, ?name, s.prompt, ?prompt,
      _, gives_vars form s _, s.declarations, ?declared, _, gives_tests form s _, s.validators,
      ?tested, s.returns, ?returns, s.children, ?children, (), ?last, ?same⟩
    case name =>
      apply gives_stepName form
      simp [Form.stepData_eq]
    case prompt =>
      apply gives_prompt canonical.prompt
      apply fieldOf_written form
      simp [Form.stepData_eq]
    case declared =>
      apply gives_numbered
      intro d isDeclared path
      exact gives_declaration legible (canonical.sound.declarations d isDeclared)
        (canonical.names d isDeclared) (counts d isDeclared)
    case tested =>
      apply gives_numbered
      intro v isValidator path
      exact gives_test (canonical.sound.validators v isValidator).1
        (canonical.sound.validators v isValidator).2
    case returns =>
      apply gives_returned form
      · intro projection isReturned part isPart
        exact ⟨canonical.sound.returns projection isReturned part isPart,
          canonical.returns projection isReturned part isPart⟩
      · simp [Form.stepData_eq]
    case children =>
      rw [childrenOf_stepData]
      apply gives_steps
      intro child isChild
      exact inductionHypothesis child isChild (below child isChild) (safe child isChild)
    case last =>
      apply gives_textResults_iff.mpr
      intro before child after cut yields
      have ended := last before child after cut yields
      exact ⟨ended.1, by simpa using ended.2⟩
    case same =>
      cases s
      rfl

/-! ### Limits -/

theorem gives_unique {α : Type} {reading : Reading α} {a b : α} (first : reading.Gives a)
    (second : reading.Gives b) : a = b := by
  have same := first.symm.trans second
  simpa using same

theorem exists_gives_of_numbered {α : Type} {read : String → Value → Reading (Option α)}
    {key : String} {i : Nat} {vs : List Value} {as : List α}
    (clean : (numbered read path key i vs).Gives as) :
    ∀ v ∈ vs, ∃ place found, (read place v).Gives found := by
  induction vs generalizing i as with
  | nil => simp
  | cons v vs inductionHypothesis =>
    simp only [numbered, gives_bind] at clean
    obtain ⟨first, firstRead, rest, restRead, _⟩ := clean
    exact List.forall_mem_cons.mpr ⟨⟨_, first, firstRead⟩, inductionHypothesis restRead⟩

theorem exists_gives_of_steps {i : Nat} {vs : List Value} {children : List Step}
    (clean : (steps path i vs).Gives children) :
    ∀ v ∈ vs, ∃ place found, (step place v).Gives found := by
  induction vs generalizing i children with
  | nil => simp
  | cons v vs inductionHypothesis =>
    simp only [steps, gives_bind] at clean
    obtain ⟨first, firstRead, rest, restRead, _⟩ := clean
    exact List.forall_mem_cons.mpr ⟨⟨_, first, firstRead⟩, inductionHypothesis restRead⟩

/-- The limit of the download is read at some place without a problem. -/
def Form.LimitRead (form : Form) (d : Download) : Prop :=
  ∃ path bound, (limit path d.name (d.limit.elim .null form.number)).Gives bound

theorem lt_of_limitRead_textual {d : Download} {n : Int} (isLimit : d.limit = some n)
    (positive : 1 ≤ n) (read : textual.LimitRead d) : n.toNat < 10 ^ Text.maxNumberDigits := by
  obtain ⟨path, kept, read⟩ := read
  rw [isLimit, Option.elim_some, gives_limit_iff (by exact nofun)] at read
  obtain ⟨m, isNumber, _⟩ := read
  rw [gives_wholeNumber_textual positive] at isNumber
  by_contra tooLong
  rw [if_neg tooLong] at isNumber
  cases isNumber

theorem limitRead_of_declaration {d : Download} (sound : SoundDeclaration (.download d))
    (isNamed : isName d.name = true) {found : Option Declaration}
    (clean : (declaration path (.map (form.variableData (.download d)))).Gives found) :
    form.LimitRead d := by
  have accepted : (some d.name).filter isName = some d.name := by simp [isNamed]
  have stands : fieldOf (form.variableData (.download d)) "name" = .text d.name := rfl
  have isDownload : (source path d.name (form.variableData (.download d))).Gives
      (some .download) := by
    apply gives_source _ rfl (by decide) rfl
    simp [Form.variableData]
  simp only [declaration, gives_bind, stands, Value.asText?, accepted, named] at clean
  obtain ⟨_, _, chosen, isChosen, clean⟩ := clean
  obtain rfl := gives_unique isDownload isChosen
  simp only [gives_bind] at clean
  obtain ⟨read, isRead, _⟩ := clean
  cases sound with
  | download notEmpty trimmed _ =>
    obtain ⟨_, _, bound, isBound, _⟩ := (gives_download_iff form notEmpty trimmed).mp isRead
    rw [fieldOf_limit] at isBound
    exact ⟨path, bound, isBound⟩

/-- A step is read without a problem only if the limits in its tree are. -/
theorem limitRead_of_gives_step (s : Step) (canonical : ∀ node ∈ s.nodes, Canonical node)
    {path : String} {found : Option Step}
    (clean : (step path (.map (form.stepData s))).Gives found) :
    ∀ node ∈ s.nodes, ∀ d, .download d ∈ node.declarations → form.LimitRead d := by
  induction s using Step.byChildren generalizing path found with
  | hereditary s inductionHypothesis =>
    obtain ⟨canonical, below⟩ := Step.forall_nodes_iff.mp canonical
    rw [Step.forall_nodes_iff]
    simp only [step, gives_bind] at clean
    obtain ⟨_, _, name, _, prompt, _, raw, isRaw, declarations, isRead, _, _, _, _, _, _, children,
      childrenRead, _⟩ := clean
    constructor
    · intro d isDeclared
      rw [gives_unique isRaw (gives_vars form s _)] at isRead
      obtain ⟨_, _, read⟩ := exists_gives_of_numbered isRead _ (List.mem_map_of_mem isDeclared)
      have isNamed : isName d.name = true := canonical.names (.download d) isDeclared
      exact limitRead_of_declaration (canonical.sound.declarations _ isDeclared) isNamed read
    · intro child isChild
      rw [childrenOf_stepData, Form.stepsData_eq_map] at childrenRead
      obtain ⟨_, _, read⟩ := exists_gives_of_steps childrenRead _ (List.mem_map_of_mem isChild)
      exact inductionHypothesis child isChild (below child isChild) read

/-! ### Workflows -/

/-- A description of version 1 that has nothing but a step and perhaps a name. -/
theorem exists_document {entries : Entries} {v : Value} {s : Step}
    (only : OnlyFields ["version", "root", "name"] entries)
    (isVersion : Entries.get? entries "version" = some (.text "1"))
    (isName : Entries.get? entries "name" = none ∨
      ∃ name, Entries.get? entries "name" = some (.text name))
    (isRoot : Entries.get? entries "root" = some v) (read : (step "root" v).Gives (some s)) :
    ∃ d, (document entries).Gives (some d) ∧ d.root = s := by
  have known : OnlyFields topFields entries := by
    have among : ∀ field ∈ ["version", "root", "name"], field ∈ topFields := by decide
    intro entry isEntry
    obtain ⟨field, isField, isKey⟩ := only entry isEntry
    exact ⟨field, among field isField, isKey⟩
  have version : (Reading.version entries).Gives "1" := by
    unfold Reading.version
    rw [fieldOf_eq isVersion]
    exact gives_of.mpr rfl
  obtain ⟨name, isName⟩ : ∃ name, (topText entries "name").Gives name := by
    unfold topText fieldOf
    rcases isName with absent | ⟨name, isName⟩
    · exact ⟨"", by rw [absent]; exact gives_of.mpr rfl⟩
    · exact ⟨name, by rw [isName]; exact gives_of.mpr rfl⟩
  have noBackend : (topText entries "backend").Gives "" := by
    unfold topText fieldOf
    rw [get?_of_onlyFields only (by decide)]
    exact gives_of.mpr rfl
  have noBackends : (backendsOf entries).Gives [] := by
    unfold backendsOf
    rw [get?_of_onlyFields only (by decide)]
    exact gives_of.mpr rfl
  have noContext : (contextOf entries).Gives .empty := by
    unfold contextOf
    rw [get?_of_onlyFields only (by decide)]
    exact gives_of.mpr rfl
  have root : (rootOf entries).Gives (some s) := by
    unfold rootOf
    rw [isRoot]
    exact read
  refine ⟨⟨name, "1", "workflow", [], .empty, s⟩, ?_, rfl⟩
  simp only [document, gives_bind]
  refine ⟨"1", version, ?_⟩
  rw [if_neg (by decide)]
  simp only [gives_bind, gives_pure]
  exact ⟨(), gives_knownKeys known, name, isName, "", noBackend, [], noBackends, .empty, noContext,
    some s, root, rfl⟩

theorem gives_root_of_document {entries : Entries} {v : Value} {d : Document}
    (isRoot : Entries.get? entries "root" = some v) (clean : (document entries).Gives (some d)) :
    (step "root" v).Gives (some d.root) := by
  have root {found : Option Step} (read : (rootOf entries).Gives found) :
      (step "root" v).Gives found := by
    unfold rootOf at read
    rw [isRoot] at read
    exact read
  simp only [document, gives_bind] at clean
  obtain ⟨version, _, clean⟩ := clean
  split at clean
  all_goals
    simp only [gives_bind, gives_pure] at clean
  · obtain ⟨_, _, _, _, _, _, _, _, _ | found, isRead, same⟩ := clean
    · cases same
    · cases same
      exact root isRead
  · obtain ⟨_, _, _, _, _, _, _, _, _, _, _ | found, isRead, same⟩ := clean
    · cases same
    · cases same
      exact root isRead

/-- The description in data of a step that can be written is accepted, and its tree is the step. -/
theorem ofEntries_described {s : Step} (canonical : ∀ node ∈ s.nodes, Canonical node)
    (safe : s.TextSafe) : (ofEntries (described s)).map (·.root) = .ok s := by
  have writes : ∀ node ∈ s.nodes, native.Writes node := by
    intro node isNode
    refine ⟨canonical node isNode, ?_⟩
    rintro _ isDeclared d rfl n isLimit
    cases (canonical node isNode).sound.declarations _ isDeclared with
    | download _ _ positive => exact counts_native (positive n isLimit)
  have only : OnlyFields ["version", "root", "name"] (described s) := by simp [described]
  obtain ⟨d, accepted, isRoot⟩ :=
    exists_document only rfl (.inl rfl) rfl (gives_step legible_native s writes safe "root")
  unfold ofEntries
  rw [outcome_eq_ok_iff.mpr accepted]
  exact congrArg Except.ok isRoot

end PromptTree.Document
