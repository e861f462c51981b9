import PromptTree.Proofs.Document.Soundness
import PromptTree.Proofs.Text.Number

/-!
Steps written down as data. Two forms of data describe the same step: one with truth values and
numbers, in which every field is written, and one in which all values are texts and a field that is
not used is left out (`native`, `textual`). `Canonical` says which steps can be written at all.
-/

namespace PromptTree

namespace Entries

@[simp] theorem get?_append (entries more : Entries) (key : String) :
    Entries.get? (entries ++ more) key = (Entries.get? entries key).or (Entries.get? more key) := by
  unfold Entries.get?
  induction entries with
  | nil => rfl
  | cons entry rest inductionHypothesis =>
    rw [List.cons_append, find?, find?, inductionHypothesis]
    split <;> rfl

@[simp] theorem get?_cons (key other : String) (v : Value) (rest : Entries) :
    Entries.get? ((.text key, v) :: rest) other =
      if key = other then some v else Entries.get? rest other := by
  unfold Entries.get?
  rw [find?]
  by_cases same : key = other
  · simp [Value.same, same]
  · simp [Value.same, same]

@[simp] theorem get?_nil (key : String) : Entries.get? [] key = none := rfl

end Entries

namespace Document

/-- How a step is written down: what stands for a truth value and for a number, and whether a field
is written also if it says nothing. -/
structure Form where
  yesNo : Bool → Value
  number : Int → Value
  complete : Bool

def native : Form := ⟨.bool, .int, true⟩

def textual : Form := ⟨fun b => .text (if b then "yes" else "no"), fun n => .text (toString n), false⟩

def written : Option String → Value
  | none => .null
  | some s => .text s

namespace Form

variable (form : Form)

/-- A field, left out if it is not used and the form allows this. -/
def field (key : String) (used : Bool) (v : Value) : Entries :=
  if used || form.complete then [(.text key, v)] else []

def variableData : Declaration → Entries
  | .fixed name template =>
    [(.text "name", .text name), (.text "source", .text "local"), (.text "value", .text template)]
  | .generated g =>
    [(.text "name", .text g.name), (.text "source", .text "ai")] ++
      form.field "pattern" g.pattern.isSome (written g.pattern) ++
      [(.text "required", form.yesNo g.required)] ++
      form.field "options" (!g.options.isEmpty) (.list (g.options.map .text))
  | .download d =>
    [(.text "name", .text d.name), (.text "source", .text "download"),
      (.text "postprocess", .text d.conversion.name)] ++
      form.field "limit" d.limit.isSome (d.limit.elim .null form.number) ++
      [(.text "value", .text d.source)]

def testData (v : Validator) : Entries :=
  [(.text "text", .text v.text)] ++ form.field "pattern" v.pattern.isSome (written v.pattern) ++
    [(.text "expect", .text v.expect)]

mutual

def returnData : Projection → Entries
  | .leaf template => [(.text "value", written template)]
  | .record items => [(.text "items", .list (itemsData items))]
termination_by structural projection => projection

def itemsData : List (Option String × Projection) → List Value
  | [] => []
  | (name, projection) :: items =>
    .map (returnData projection ++ form.field "name" name.isSome (written name)) :: itemsData items
termination_by structural items => items

end

mutual

def stepData : Step → Entries
  | ⟨name, prompt, declarations, validators, returns, children⟩ =>
    form.field "name" (name != "") (.text name) ++
      form.field "prompt" prompt.isSome (written prompt) ++
      form.field "vars" (!declarations.isEmpty)
        (.list (declarations.map fun d => .map (form.variableData d))) ++
      form.field "tests" (!validators.isEmpty)
        (.list (validators.map fun v => .map (form.testData v))) ++
      returns.toList.map (fun projection => (.text "return", .map (form.returnData projection))) ++
      form.field "steps" (!children.isEmpty) (.list (stepsData children))
termination_by structural step => step

def stepsData : List Step → List Value
  | [] => []
  | child :: children => .map (stepData child) :: stepsData children
termination_by structural children => children

end

theorem stepData_eq (step : Step) :
    form.stepData step =
      form.field "name" (step.name != "") (.text step.name) ++
        form.field "prompt" step.prompt.isSome (written step.prompt) ++
        form.field "vars" (!step.declarations.isEmpty)
          (.list (step.declarations.map fun d => .map (form.variableData d))) ++
        form.field "tests" (!step.validators.isEmpty)
          (.list (step.validators.map fun v => .map (form.testData v))) ++
        step.returns.toList.map
          (fun projection => (.text "return", .map (form.returnData projection))) ++
        form.field "steps" (!step.children.isEmpty) (.list (form.stepsData step.children)) := by
  cases step
  rfl

theorem stepsData_eq_map (children : List Step) :
    form.stepsData children = children.map fun child => .map (form.stepData child) := by
  induction children with
  | nil => rfl
  | cons child children inductionHypothesis =>
    rw [List.map_cons, ← inductionHypothesis]
    rfl

end Form

/-- The description of a workflow that is this step and nothing else. -/
def described (step : Step) : Entries :=
  [(.text "version", .text "1"), (.text "root", .map (native.stepData step))]

/-- A step that can be written down: it is sound, its variables have names that are accepted, its
prompt is not empty, and what it returns has a template or items. -/
structure Canonical (step : Step) : Prop where
  sound : SoundStep step
  names : ∀ declaration ∈ step.declarations, Reading.isName declaration.name = true
  prompt : step.prompt ≠ some ""
  returns : ∀ projection, step.returns = some projection →
    ∀ part ∈ projection.parts, part ≠ .leaf none ∧ part ≠ .record []

end Document

end PromptTree
