import Mathlib.Data.List.Nodup
import PromptTree.Workflow.Check
import PromptTree.Workflow.Schema

/-!
The schema that a backend is given and the check of what it answers. Both are made from the variables
of a step, one without the other; here the schema is read on its own, as data, and the check is found
to follow it. `Satisfies` says when texts satisfy a schema, `Violates` when one property is violated,
`Reports` which rejection this calls for. Main statement: the check accepts the texts of a scope if
and only if they satisfy the schema, and a rejection is about the first property that is violated
(`checkGenerated_schema`).
-/

namespace PromptTree

/-! ### Distinct names -/

namespace Generated

theorem lastOf_subset (gs : List Generated) : lastOf gs ⊆ gs := by
  induction gs with
  | nil => exact List.Subset.refl _
  | cons g gs inductionHypothesis =>
    unfold lastOf
    split
    · exact List.subset_cons_of_subset g inductionHypothesis
    · exact List.cons_subset_cons g inductionHypothesis

theorem nodup_lastOf (gs : List Generated) : ((lastOf gs).map (·.name)).Nodup := by
  induction gs with
  | nil => exact List.nodup_nil
  | cons g gs inductionHypothesis =>
    unfold lastOf
    split
    · exact inductionHypothesis
    · next isLast =>
      rw [List.map_cons, List.nodup_cons]
      refine ⟨?_, inductionHypothesis⟩
      intro isName
      obtain ⟨other, isOther, same⟩ := List.mem_map.mp isName
      exact isLast (List.any_eq_true.mpr ⟨other, lastOf_subset gs isOther, by simp [same]⟩)

end Generated

namespace Entries

@[simp] theorem same_text (a b : String) : (Value.text a).same (.text b) = (a == b) := rfl

theorem insert_of_new {key : String} {value : Value} {fields : List (String × Value)}
    (new : key ∉ fields.map Prod.fst) :
    insert (.text key) value (ofFields fields) = ofFields (fields ++ [(key, value)]) := by
  induction fields with
  | nil => rfl
  | cons field fields inductionHypothesis =>
    rw [List.map_cons, List.mem_cons, not_or] at new
    have other : (field.1 == key) = false := by
      rw [beq_eq_false_iff_ne]
      exact Ne.symm new.1
    have later := inductionHypothesis new.2
    simp only [ofFields, List.map_cons, List.cons_append, insert, same_text, other] at later ⊢
    rw [later]
    rfl

/-- Fields of new names are added as they are to those that are there already. -/
theorem foldl_insert_ofFields (before after : List (String × Value))
    (distinct : ((before ++ after).map Prod.fst).Nodup) :
    (ofFields after).foldl (fun entries (k, v) => insert k v entries) (ofFields before) =
      ofFields (before ++ after) := by
  induction after generalizing before with
  | nil =>
    rw [List.append_nil]
    rfl
  | cons field after inductionHypothesis =>
    have new : field.1 ∉ before.map Prod.fst := by
      rw [List.map_append, List.map_cons, List.nodup_append] at distinct
      intro isName
      exact distinct.2.2 _ isName _ List.mem_cons_self rfl
    have moved : before ++ field :: after = before ++ [field] ++ after := by simp
    rw [moved] at distinct ⊢
    rw [← inductionHypothesis (before ++ [field]) distinct, ← insert_of_new new]
    rfl

theorem ofList_ofFields {fields : List (String × Value)} (distinct : (fields.map Prod.fst).Nodup) :
    ofList (ofFields fields) = ofFields fields :=
  foldl_insert_ofFields [] fields distinct

theorem get?_toValues (scope : Scope) (name : String) :
    Entries.get? scope.toValues name = (scope.get? name).map .text := by
  unfold Entries.get? Scope.toValues Scope.get?
  induction scope.entries with
  | nil => rfl
  | cons entry rest inductionHypothesis =>
    rw [List.map_cons, find?, List.lookup_cons, inductionHypothesis, same_text]
    by_cases same : entry.1 = name
    · simp [same]
    · have different : (name == entry.1) = false := by
        rw [beq_eq_false_iff_ne]
        exact Ne.symm same
      simp [same, different]

end Entries

theorem Json.exists_writeEntries?_texts (entries : List (String × String)) (level : Nat) :
    ∃ parts, writeEntries? plain level
      (entries.map fun (name, text) => (.text name, .text text)) = some parts := by
  induction entries with
  | nil => exact ⟨[], rfl⟩
  | cons entry rest inductionHypothesis =>
    obtain ⟨parts, ended⟩ := inductionHypothesis
    rw [List.map_cons, writeEntries?, ended]
    exact ⟨_, rfl⟩

/-- A scope can always be shown. -/
theorem Scope.toJson?_toValues (scope : Scope) :
    (Value.map scope.toValues).toJson? Json.plain = some scope.toJson := by
  obtain ⟨parts, ended⟩ := Json.exists_writeEntries?_texts scope.entries 1
  have shown : ∃ json, (Value.map scope.toValues).toJson? Json.plain = some json := by
    unfold Value.toJson? Scope.toValues Json.write?
    rw [ended]
    exact ⟨_, rfl⟩
  obtain ⟨json, shown⟩ := shown
  unfold Scope.toJson
  rw [shown]
  rfl

namespace Workflow

/-! ### Schemas -/

def field? (v : Value) (key : String) : Option Value :=
  v.asMap?.bind fun entries => Entries.get? entries key

def propertiesOf (schema : Value) : Entries :=
  ((field? schema "properties").bind Value.asMap?).getD []

def requiredOf (schema : Value) : List Value :=
  ((field? schema "required").bind Value.asList?).getD []

/-- The text is one of those that a property lists, if it lists any. -/
def InEnum (property : Value) (text : String) : Prop :=
  ∀ options, (field? property "enum").bind Value.asList? = some options → .text text ∈ options

/-- The pattern of a property, if it has one, has a match somewhere in the text. A line end is a
character like any other. -/
def HasMatch (property : Value) (text : String) : Prop :=
  ∀ pattern, (field? property "pattern").bind Value.asText? = some pattern →
    ∃ regex, Regex.read { dotAll := true } pattern = .ok regex ∧ regex.foundIn text = true

/-- Texts satisfy a schema, with the empty text for what is absent. -/
structure Satisfies (schema : Value) (held : String → String) : Prop where
  options : ∀ name property, (.text name, property) ∈ propertiesOf schema →
    InEnum property (held name)
  patterns : ∀ name property, (.text name, property) ∈ propertiesOf schema →
    HasMatch property (held name)
  required : ∀ name, .text name ∈ requiredOf schema → held name ≠ ""

def Missing (schema : Value) (held : String → String) (name : String) : Prop :=
  .text name ∈ requiredOf schema ∧ held name = ""

def Violates (schema : Value) (held : String → String) (name : String) (property : Value) : Prop :=
  Missing schema held name ∨ ¬ HasMatch property (held name) ∨ ¬ InEnum property (held name)

/-- The rejection that a violation calls for: that the text is missing before that it has no match
of the pattern, and this before that it is not one of the options. -/
inductive Reports (schema : Value) (scope : Scope) (held : String → String) (name : String)
    (property : Value) : Rejection → Prop where
  | missing :
    Missing schema held name →
    Reports schema scope held name property (.missing name (beginning shownLength scope.toJson))
  | unmatched {pattern : String} :
    ¬ Missing schema held name → field? property "pattern" = some (.text pattern) →
    ¬ HasMatch property (held name) →
    Reports schema scope held name property (.unmatched name pattern (held name))
  | notAnOption {options : List String} :
    ¬ Missing schema held name → HasMatch property (held name) →
    field? property "enum" = some (.list (options.map .text)) → ¬ InEnum property (held name) →
    Reports schema scope held name property (.notAnOption name options (held name))

theorem Reports.violates {schema : Value} {scope : Scope} {held : String → String} {name : String}
    {property : Value} {rejection : Rejection}
    (reports : Reports schema scope held name property rejection) :
    Violates schema held name property := by
  cases reports with
  | missing missing => exact .inl missing
  | unmatched _ _ noMatch => exact .inr (.inl noMatch)
  | notAnOption _ _ _ notAmong => exact .inr (.inr notAmong)

/-- If only declared names are required, texts satisfy a schema if they violate no property. -/
theorem satisfies_iff {schema : Value} {held : String → String}
    (listed : ∀ v ∈ requiredOf schema, v ∈ (propertiesOf schema).map Prod.fst) :
    Satisfies schema held ↔
      ∀ name property, (.text name, property) ∈ propertiesOf schema →
        ¬ Violates schema held name property := by
  constructor
  · intro satisfied name property isProperty violated
    rcases violated with ⟨isRequired, isEmpty⟩ | noMatch | notAmong
    · exact satisfied.required name isRequired isEmpty
    · exact noMatch (satisfied.patterns name property isProperty)
    · exact notAmong (satisfied.options name property isProperty)
  · intro fine
    refine ⟨?_, ?_, ?_⟩
    · intro name property isProperty
      by_contra notAmong
      exact fine name property isProperty (.inr (.inr notAmong))
    · intro name property isProperty
      by_contra noMatch
      exact fine name property isProperty (.inr (.inl noMatch))
    · intro name isRequired isEmpty
      obtain ⟨⟨key, property⟩, isProperty, rfl⟩ := List.mem_map.mp (listed _ isRequired)
      exact fine name property isProperty (.inl ⟨isRequired, isEmpty⟩)

/-! ### The schema of some variables -/

theorem requiredOf_schema (gs : List Generated) :
    requiredOf (schema gs) = (requiredNames gs).map .text := rfl

/-- The properties that some variables declare, one for each. -/
def declaredBy (gs : List Generated) : Entries :=
  gs.map fun g => (.text g.name, property g)

theorem forall_declaredBy {gs : List Generated} {holds : String → Value → Prop} :
    (∀ name property, (.text name, property) ∈ declaredBy gs → holds name property) ↔
      ∀ g ∈ gs, holds g.name (property g) := by
  constructor
  · intro all g isDeclared
    exact all _ _ (List.mem_map.mpr ⟨g, isDeclared, rfl⟩)
  · intro each name property isProperty
    obtain ⟨g, isDeclared, same⟩ := List.mem_map.mp isProperty
    cases same
    exact each g isDeclared

theorem propertiesOf_schema {gs : List Generated} (distinct : (gs.map (·.name)).Nodup) :
    propertiesOf (schema gs) = declaredBy gs := by
  have asFields : declaredBy gs = Entries.ofFields (gs.map fun g => (g.name, property g)) := by
    simp [declaredBy, Entries.ofFields]
  have declared : propertiesOf (schema gs) = Entries.ofList (declaredBy gs) := rfl
  rw [declared, asFields, Entries.ofList_ofFields]
  simpa [Function.comp_def] using distinct

theorem mem_requiredOf_schema {gs : List Generated} (distinct : (gs.map (·.name)).Nodup)
    {g : Generated} (isDeclared : g ∈ gs) :
    .text g.name ∈ requiredOf (schema gs) ↔ g.required = true := by
  rw [requiredOf_schema, List.mem_map_of_injective fun _ _ => Value.text.inj]
  unfold requiredNames
  rw [List.mem_map]
  constructor
  · rintro ⟨other, isOther, same⟩
    rw [List.mem_filter] at isOther
    exact List.inj_on_of_nodup_map distinct isOther.1 isDeclared same ▸ isOther.2
  · intro isRequired
    exact ⟨g, List.mem_filter.mpr ⟨isDeclared, isRequired⟩, rfl⟩

theorem requiredOf_schema_subset {gs : List Generated} (distinct : (gs.map (·.name)).Nodup) :
    ∀ v ∈ requiredOf (schema gs), v ∈ (propertiesOf (schema gs)).map Prod.fst := by
  intro v isRequired
  rw [requiredOf_schema] at isRequired
  obtain ⟨name, isName, rfl⟩ := List.mem_map.mp isRequired
  obtain ⟨g, isDeclared, rfl⟩ := List.mem_map.mp isName
  rw [propertiesOf_schema distinct, declaredBy, List.map_map]
  exact List.mem_map.mpr ⟨g, (List.mem_filter.mp isDeclared).1, rfl⟩

theorem nodup_requiredOf_schema {gs : List Generated} (distinct : (gs.map (·.name)).Nodup) :
    (requiredOf (schema gs)).Nodup := by
  rw [requiredOf_schema]
  apply List.Nodup.map fun _ _ => Value.text.inj
  exact distinct.sublist (List.filter_sublist.map _)

theorem field?_property_enum (g : Generated) :
    field? (property g) "enum" =
      if g.options = [] then none else some (.list (g.options.map .text)) := by
  unfold property
  cases g.options with
  | nil => cases usedPattern g.pattern <;> rfl
  | cons option options => rfl

theorem field?_property_pattern (g : Generated) :
    field? (property g) "pattern" = (usedPattern g.pattern).map .text := by
  unfold property
  cases g.options with
  | nil => cases usedPattern g.pattern <;> rfl
  | cons option options => cases usedPattern g.pattern <;> rfl

theorem inEnum_property {g : Generated} {text : String} :
    InEnum (property g) text ↔ g.options = [] ∨ text ∈ g.options := by
  unfold InEnum
  rw [field?_property_enum]
  split
  · next empty => simp [empty]
  · next notEmpty => simp [notEmpty, Value.asList?]

theorem hasMatch_property {g : Generated} {text : String} :
    HasMatch (property g) text ↔ ∀ pattern, usedPattern g.pattern = some pattern →
      ∃ regex, Regex.read { dotAll := true } pattern = .ok regex ∧ regex.foundIn text = true := by
  unfold HasMatch
  rw [field?_property_pattern]
  cases usedPattern g.pattern with
  | none => simp
  | some pattern => simp [Value.asText?]

/-! ### The check -/

/-- The text that a scope holds under a name; there is the empty text where there is none. -/
def heldIn (scope : Scope) (name : String) : String :=
  (scope.get? name).getD ""

theorem valueOf_toValues (scope : Scope) (name : String) :
    valueOf scope.toValues name = .text (heldIn scope name) := by
  unfold valueOf heldIn
  rw [Entries.get?_toValues]
  cases scope.get? name with
  | none => rfl
  | some text =>
    by_cases empty : text = ""
    · rw [empty]
      rfl
    · have truthy : (Value.text text).isTruthy = true := by simp [Value.isTruthy, empty]
      simp [truthy]

/-- The pattern of a variable, unless it is empty, is a pattern. -/
def PatternCompiles (g : Generated) : Prop :=
  ∀ pattern, usedPattern g.pattern = some pattern →
    ∃ regex, Regex.read { dotAll := true } pattern = .ok regex

theorem checkVariable_of_missing {g : Generated} {scope : Scope}
    (isEmpty : heldIn scope g.name = "") (isRequired : g.required = true) :
    checkVariable scope.toValues g =
      .ok (some (.missing g.name (beginning shownLength scope.toJson))) := by
  unfold checkVariable
  rw [valueOf_toValues, Scope.toJson?_toValues, isEmpty, isRequired]
  rfl

/-- A text that is not missing is searched for the pattern first and then looked up in the options.
-/
theorem checkVariable_of_present {g : Generated} {scope : Scope} (compiles : PatternCompiles g)
    (present : ¬ (heldIn scope g.name = "" ∧ g.required = true)) :
    ∃ found, (found = true ↔ HasMatch (property g) (heldIn scope g.name)) ∧
      checkVariable scope.toValues g = .ok (
        if !found then some (.unmatched g.name (g.pattern.getD "") (heldIn scope g.name))
        else if !g.options.isEmpty && !g.options.contains (heldIn scope g.name) then
          some (.notAnOption g.name g.options (heldIn scope g.name))
        else none) := by
  have notMissing : ¬ ((!(Value.text (heldIn scope g.name)).isTruthy && g.required) = true) := by
    simpa [Value.isTruthy] using present
  rw [hasMatch_property]
  unfold checkVariable
  rw [valueOf_toValues]
  dsimp only
  rw [if_neg notMissing]
  cases used : usedPattern g.pattern with
  | none =>
    refine ⟨true, by simp, ?_⟩
    exact (apply_ite Except.ok _ _ _).symm
  | some pattern =>
    obtain ⟨regex, isRegex⟩ := compiles pattern used
    refine ⟨regex.foundIn (heldIn scope g.name), by simp [isRegex], ?_⟩
    have searched : matchesPattern pattern (.text (heldIn scope g.name)) =
        .ok (regex.foundIn (heldIn scope g.name)) := by
      unfold matchesPattern
      rw [isRegex]
    dsimp only
    rw [searched, apply_ite Except.ok, apply_ite Except.ok]
    rfl

theorem getD_pattern_of_used {pattern : Option String} {used : String}
    (isUsed : usedPattern pattern = some used) : pattern.getD "" = used := by
  obtain ⟨isPattern, _⟩ := Option.filter_eq_some_iff.mp isUsed
  rw [isPattern]
  rfl

/-- The check of one variable agrees with the schema of all of them. -/
theorem checkVariable_reports {gs : List Generated} (distinct : (gs.map (·.name)).Nodup)
    {g : Generated} (isDeclared : g ∈ gs) (compiles : PatternCompiles g) (scope : Scope) :
    (checkVariable scope.toValues g = .ok none ∧
      ¬ Violates (schema gs) (heldIn scope) g.name (property g)) ∨
    ∃ rejection, checkVariable scope.toValues g = .ok (some rejection) ∧
      Reports (schema gs) scope (heldIn scope) g.name (property g) rejection := by
  have missing_iff : Missing (schema gs) (heldIn scope) g.name ↔
      heldIn scope g.name = "" ∧ g.required = true := by
    unfold Missing
    rw [mem_requiredOf_schema distinct isDeclared, and_comm]
  by_cases missing : heldIn scope g.name = "" ∧ g.required = true
  · exact .inr ⟨_, checkVariable_of_missing missing.1 missing.2, .missing (missing_iff.mpr missing)⟩
  have present : ¬ Missing (schema gs) (heldIn scope) g.name := mt missing_iff.mp missing
  obtain ⟨found, found_iff, checked⟩ := checkVariable_of_present compiles missing
  rw [checked]
  by_cases hasMatch : HasMatch (property g) (heldIn scope g.name)
  · rw [found_iff.mpr hasMatch]
    by_cases among : InEnum (property g) (heldIn scope g.name)
    · refine .inl ⟨?_, ?_⟩
      · rcases inEnum_property.mp among with none | isOption
        · simp [none]
        · simp [isOption]
      · rintro (missing | noMatch | notAmong)
        · exact present missing
        · exact noMatch hasMatch
        · exact notAmong among
    · have notAmong := mt inEnum_property.mpr among
      rw [not_or] at notAmong
      refine .inr ⟨.notAnOption g.name g.options (heldIn scope g.name), ?_, ?_⟩
      · simp [notAmong]
      · refine .notAnOption present hasMatch ?_ among
        rw [field?_property_enum, if_neg notAmong.1]
  · have notFound : found = false := by simpa [hasMatch] using found_iff
    rw [notFound]
    cases used : usedPattern g.pattern with
    | none => exact absurd (hasMatch_property.mpr (by simp [used])) hasMatch
    | some pattern =>
      refine .inr ⟨_, rfl, ?_⟩
      rw [getD_pattern_of_used used]
      refine .unmatched present ?_ hasMatch
      rw [field?_property_pattern, used]
      rfl

/-- The check of some of the variables: it accepts them all, or it rejects the first that is
violated. -/
theorem checkGenerated_reports {gs : List Generated} (distinct : (gs.map (·.name)).Nodup)
    (scope : Scope) {rest : List Generated} (declared : rest ⊆ gs)
    (compiles : ∀ g ∈ rest, PatternCompiles g) :
    (checkGenerated scope.toValues rest = .ok none ∧
      ∀ g ∈ rest, ¬ Violates (schema gs) (heldIn scope) g.name (property g)) ∨
    ∃ rejection before g after, checkGenerated scope.toValues rest = .ok (some rejection) ∧
      rest = before ++ g :: after ∧
      (∀ other ∈ before, ¬ Violates (schema gs) (heldIn scope) other.name (property other)) ∧
      Reports (schema gs) scope (heldIn scope) g.name (property g) rejection := by
  induction rest with
  | nil => exact .inl ⟨rfl, by simp⟩
  | cons g rest inductionHypothesis =>
    rw [List.cons_subset] at declared
    rw [List.forall_mem_cons] at compiles
    rcases checkVariable_reports distinct declared.1 compiles.1 scope with
      ⟨checked, fine⟩ | ⟨rejection, checked, reports⟩
    · have passed : checkGenerated scope.toValues (g :: rest) =
          checkGenerated scope.toValues rest := by
        rw [checkGenerated, checked]
        rfl
      rw [passed]
      rcases inductionHypothesis declared.2 compiles.2 with
        ⟨accepted, others⟩ | ⟨rejection, before, bad, after, rejected, cut, others, reports⟩
      · exact .inl ⟨accepted, List.forall_mem_cons.mpr ⟨fine, others⟩⟩
      · exact .inr ⟨rejection, g :: before, bad, after, rejected, by rw [cut, List.cons_append],
          List.forall_mem_cons.mpr ⟨fine, others⟩, reports⟩
    · refine .inr ⟨rejection, [], g, rest, ?_, rfl, by simp, reports⟩
      rw [checkGenerated, checked]
      rfl

/-- The schema of a step's variables and the check of their texts agree. The check accepts exactly
the scopes whose texts satisfy the schema, and it never fails; what the schema requires it also
declares, and nothing twice; and a rejection is about the first property, in the order of the
schema, that is violated, and of what is wrong with it the first that `Reports` names. -/
theorem checkGenerated_schema (step : Step) (scope : Scope)
    (compiles : ∀ g ∈ step.generatedVariables, PatternCompiles g) :
    let demanded := schema step.generatedVariables
    let outcome := checkGenerated scope.toValues step.generatedVariables
    (outcome = .ok none ↔ Satisfies demanded (heldIn scope)) ∧
    (∀ fault, outcome ≠ .error fault) ∧
    (requiredOf demanded).Nodup ∧
    (∀ v ∈ requiredOf demanded, v ∈ (propertiesOf demanded).map Prod.fst) ∧
    ∀ rejection, outcome = .ok (some rejection) → ∃ before name property after,
      propertiesOf demanded = before ++ (.text name, property) :: after ∧
      (∀ other constraint, (.text other, constraint) ∈ before →
        ¬ Violates demanded (heldIn scope) other constraint) ∧
      Reports demanded scope (heldIn scope) name property rejection := by
  intro demanded outcome
  have distinct : (step.generatedVariables.map (·.name)).Nodup := Generated.nodup_lastOf _
  have declared : propertiesOf demanded = declaredBy step.generatedVariables :=
    propertiesOf_schema distinct
  have listed : ∀ v ∈ requiredOf demanded, v ∈ (propertiesOf demanded).map Prod.fst :=
    requiredOf_schema_subset distinct
  have satisfied : Satisfies demanded (heldIn scope) ↔ ∀ g ∈ step.generatedVariables,
      ¬ Violates demanded (heldIn scope) g.name (property g) := by
    rw [satisfies_iff listed, declared, forall_declaredBy]
  have agree := checkGenerated_reports distinct scope (List.Subset.refl _) compiles
  refine ⟨?_, ?_, nodup_requiredOf_schema distinct, listed, ?_⟩
  · rw [satisfied]
    rcases agree with ⟨accepted, fine⟩ | ⟨rejection, before, g, after, rejected, cut, _, reports⟩
    · exact iff_of_true accepted fine
    · have isDeclared : g ∈ step.generatedVariables := by simp [cut]
      refine iff_of_false (by simp [outcome, rejected]) ?_
      intro fine
      exact fine g isDeclared reports.violates
  · intro fault failed
    rcases agree with ⟨ended, _⟩ | ⟨_, _, _, _, ended, _⟩
    · cases ended.symm.trans failed
    · cases ended.symm.trans failed
  · intro rejection ended
    rcases agree with ⟨accepted, _⟩ | ⟨_, before, g, after, rejected, cut, others, reports⟩
    · cases accepted.symm.trans ended
    · cases rejected.symm.trans ended
      refine ⟨declaredBy before, g.name, property g, declaredBy after, ?_, ?_, reports⟩
      · rw [declared, cut]
        simp [declaredBy]
      · rw [forall_declaredBy]
        exact others

/-- A step with a mood to choose and a reason that has a letter. -/
def moodStep : Step :=
  { (default : Step) with
    declarations :=
      [.generated ⟨"mood", none, true, ["good", "bad"]⟩, .generated ⟨"why", some "[a-z]", false, []⟩] }

theorem checkGenerated_schema_moodStep :
    (∀ g ∈ moodStep.generatedVariables, PatternCompiles g) ∧
      Satisfies (schema moodStep.generatedVariables)
        (heldIn (.ofPairs [("mood", "good"), ("why", "so")])) ∧
      ¬ Satisfies (schema moodStep.generatedVariables) (heldIn (.ofPairs [("why", "so")])) := by
  have compiles : ∀ g ∈ moodStep.generatedVariables, PatternCompiles g := by
    intro g isDeclared pattern used
    obtain rfl | rfl : g = ⟨"mood", none, true, ["good", "bad"]⟩ ∨
        g = ⟨"why", some "[a-z]", false, []⟩ := by
      simpa [Step.generatedVariables, moodStep, Generated.lastOf] using isDeclared
    · cases used
    · cases used
      exact ⟨_, rfl⟩
  have good := checkGenerated_schema moodStep (.ofPairs [("mood", "good"), ("why", "so")]) compiles
  have missing := checkGenerated_schema moodStep (.ofPairs [("why", "so")]) compiles
  refine ⟨compiles, good.1.mp (by decide +kernel), ?_⟩
  intro satisfied
  have accepted := missing.1.mpr satisfied
  revert accepted
  decide +kernel

end Workflow

end PromptTree
