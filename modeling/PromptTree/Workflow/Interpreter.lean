import PromptTree.Workflow.Check
import PromptTree.Workflow.Projected
import PromptTree.Workflow.Schema
import PromptTree.Workflow.Session

/-!
Running steps. A step gives its fixed variables their values, downloads, asks the backend until the
answer is accepted, runs its children one after the other, each on what the one before returned, and
returns what it projects from that.
-/

namespace PromptTree.Workflow

variable {β : Type}

/-- Writes the fixed variables of a step over a scope and resolves all of it. -/
def bindFixed (engine : Engine β) (step : Step) (scope : Scope) : Run β Scope := do
  let merged := scope.writeAll step.fixedVariables
  return .ofPairs (← Run.resolveAll engine merged merged.entries)

/-- Downloads one variable. What stands for a page that cannot be downloaded is not converted. -/
def bindDownload (engine : Engine β) (d : Download) (scope : Scope) : Run β Scope := do
  let locator ← Run.resolve engine d.source scope
  let text ← Run.download engine locator
  let conversion := if text = Run.unknownPage then .none else d.conversion
  match conversion.apply text with
  | .ok text => return scope.write d.name (Html.Conversion.cut d.limit text)
  | .error rejected => throw (.page rejected)

def bindDownloads (engine : Engine β) : List Download → Scope → Run β Scope
  | [], scope => return scope
  | d :: ds, scope => do bindDownloads engine ds (← bindDownload engine d scope)

def answerJson (answer : Value) : Run β String :=
  match answer.toJson? Json.plain with
  | some json => return json
  | none => throw (.text .noText)

/-- An answer of the backend, written over a scope. It has to be a map. -/
def askOver (engine : Engine β) (step : Step) (prompt : String) (scope : Scope) :
    Run β (Value × Scope) := do
  let answer ← Run.ask engine prompt (schema step.generatedVariables)
  match answer with
  | .map entries =>
    -- An answer that is no JSON ends the run here, before anything of it is written.
    let shown ← answerJson answer
    Run.log .debug s!"Step '{step.label}' response: {shown}"
    match scope.merge entries with
    | .ok candidate => return (answer, candidate)
    | .error e => throw (.text e)
  | answer =>
    throw (.backend (.failed
      s!"Backend returned {answer.kindName} instead of a mapping for step '{step.label}'"))

def loggedPromptLength : Nat := 500

/-- What an attempt comes to: the prompt that was put, the answer to it, the scope with the answer written
over it, and why this is rejected, if it is. -/
structure Attempt where
  prompt : String
  answer : Value
  candidate : Scope
  rejection : Option Rejection

/-- Logs why an attempt is rejected, and what it was if another one follows; `left` is how many may. -/
def logRejection (step : Step) (left : Nat) (prompt : String) (answer : Value) :
    Option Rejection → Run β Unit
  | none => return
  | some rejection => do
    Run.log .warning s!"Step '{step.label}': {rejection.message}"
    if left ≠ 0 then
      let response ← answerJson answer
      let asked := Json.string Json.plain (beginning loggedPromptLength prompt)
      Run.log .warning (s!"Validation failed, retrying... (attempts left: {left}). " ++
        s!"Response: {response} Prompt: {asked}")

/-- One attempt to get an answer that passes the check, written over a scope; `left` is how many may follow
and `made` how many there were. -/
def attempt (engine : Engine β) (step : Step) (template : String)
    (check : Scope → Run β (Option Rejection)) (left made : Nat) (scope : Scope) : Run β Attempt := do
  let names := ((Value.list ((properties step.generatedVariables).map (·.1))).toJson? Json.ascii).getD ""
  Run.log .info (s!"Step '{step.label}': prompting AI to generate {names} " ++
    s!"(attempt {made + 1}/{engine.retry.attempts})")
  let prompt ← Run.resolve engine template scope
  let (answer, candidate) ← askOver engine step prompt scope
  let rejection ← check candidate
  logRejection step left prompt answer rejection
  return { prompt, answer, candidate, rejection }

/-- Attempts to get an answer that passes the check, each on top of the answers before; `left` is how many
may follow and `made` how many there were, `last` why the last of them was rejected. -/
def attempts (engine : Engine β) (step : Step) (template : String)
    (check : Scope → Run β (Option Rejection)) :
    (left made : Nat) → Scope → (last : Option Rejection) → Run β Scope
  | 0, made, _, last => do
    Run.log .error s!"Step '{step.label}': giving up after {made} attempts"
    throw (.exhausted step.label made last)
  | left + 1, made, scope, _ => do
    if made ≠ 0 then Run.note (.paused engine.retry.milliseconds)
    let tried ← attempt engine step template check left made scope
    match tried.rejection with
    | none => return tried.candidate
    | some rejection =>
      attempts engine step template check left (made + 1) tried.candidate (some rejection)

/-- Asks the backend until an answer passes the check, as often as the engine allows. -/
def generate (engine : Engine β) (step : Step) (template : String)
    (check : Scope → Run β (Option Rejection)) (scope : Scope) : Run β Scope :=
  attempts engine step template check engine.retry.attempts 0 scope none

/-- Runs a step as far as its children, with a check of the answers. -/
def perform (engine : Engine β) (step : Step) (check : Scope → Run β (Option Rejection))
    (scope : Scope) : Run β Scope := do
  let scope ← bindFixed engine step scope
  let scope ← bindDownloads engine step.downloads scope
  match step.usedPrompt with
  | none => return scope
  | some template => generate engine step template check scope

/-- Checks only the variables that the backend has filled in. -/
def checkAnswer (step : Step) (scope : Scope) : Run β (Option Rejection) :=
  Run.ofExcept (checkGenerated scope.toValues step.generatedVariables)

/-- A verdict about a text, why it is the verdict, and where it comes from. -/
structure Verdict where
  verdict : String
  explanation : String
  source : String

def judge (engine : Engine β) (question : String) (scope : Scope) : Run β Verdict := do
  let step := Step.judge question
  let result ← perform engine step (checkAnswer step) scope
  return ⟨(result.get? "answer").getD "", (result.get? "answerExplanation").getD "", "generated by AI"⟩

def searchVerdict (pattern text : String) : Except Fault Verdict := do
  let found ← isFound {} pattern text
  let explanation := if found then "matched" else "not matched"
  return ⟨if found then "yes" else "no", explanation, s!"pattern {pattern}"⟩

def checkValidator (engine : Engine β) (v : Validator) (scope : Scope) : Run β (Option Rejection) := do
  let text ← Run.resolve engine v.text scope
  let verdict ← match usedPattern v.pattern with
    | some pattern => Run.ofExcept (searchVerdict pattern text)
    | none => judge engine text scope
  if verdict.verdict = v.expect then return none
  else return some (.verdict v.expect verdict.verdict verdict.explanation verdict.source text)

def checkValidators (engine : Engine β) (scope : Scope) :
    List Validator → Run β (Option Rejection)
  | [] => return none
  | v :: vs => do
    match ← checkValidator engine v scope with
    | some rejection => return some rejection
    | none => checkValidators engine scope vs

/-- Checks an answer to the prompt of a step: the variables first, then the validators. -/
def validate (engine : Engine β) (step : Step) (scope : Scope) : Run β (Option Rejection) := do
  match ← checkAnswer step scope with
  | some rejection => return some rejection
  | none => checkValidators engine scope step.orderedValidators

mutual

def project (engine : Engine β) (scope : Scope) : Projection → Run β Projected
  | .leaf template => do return .text (← Run.resolve engine (template.getD "") scope)
  | .record items => do return .record (← projectItems engine scope [] items)
termination_by structural p => p

/-- What items make of a scope, after those before them. An item without a name goes by their
number. -/
def projectItems (engine : Engine β) (scope : Scope) (before : List (ItemKey × Projected)) :
    List (Option String × Projection) → Run β (List (ItemKey × Projected))
  | [] => return before
  | (name, projection) :: items => do
    -- The number is that of the entries: an item whose name is there already adds none.
    let key := match name with
      | some name => if name.isEmpty then .position before.length else .name name
      | none => .position before.length
    let item ← project engine scope projection
    projectItems engine scope (Projected.insertItem key item before) items
termination_by structural items => items

end

/-- The scope that what a child returned makes for what follows it. -/
def scopeFor (step : Step) (consumer : String) (value : Projected) : Run β Scope :=
  match value.toScope? with
  | some scope => return scope
  | none => throw (.needsScope step.label consumer)

mutual

def run (engine : Engine β) : Step → Scope → Run β Projected
  | ⟨name, prompt, declarations, validators, returns, children⟩, scope => do
    let step : Step := ⟨name, prompt, declarations, validators, returns, children⟩
    let working ← perform engine step (validate engine step) scope
    let value ← runChildren engine step (.ofScope working) children
    match returns with
    | none => return value
    | some projection => project engine (← scopeFor step "return" value) projection
termination_by structural s => s

/-- Runs the children of a step, each on what the one before returned. -/
def runChildren (engine : Engine β) (step : Step) (value : Projected) : List Step → Run β Projected
  | [] => return value
  | child :: children => do
    let scope ← scopeFor step child.label value
    runChildren engine step (← run engine child scope) children
termination_by structural children => children

end

def runDocument (engine : Engine β) (document : Document) (initial : Entries) : Run β Projected := do
  match document.context.merge initial with
  | .error e => throw (.text e)
  | .ok scope =>
    let name := if document.name.isEmpty then "<unnamed>" else document.name
    Run.log .info s!"Running workflow '{name}' with backend '{engine.selector}'"
    let result ← run engine document.root scope
    let downloaded := (← get).downloads.length
    Run.log .info s!"Workflow finished ({downloaded} downloads cached)"
    return result

end PromptTree.Workflow
