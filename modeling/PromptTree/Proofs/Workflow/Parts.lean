import PromptTree.Proofs.Workflow.Result

/-!
Properties that a run has because its parts have them. A property of stretches that holds of every
single thing a run does, and that two stretches pass on to the one made of both, holds of everything
that a step does before its children run, of its validation and of its projection. Two of the parts
are whole turns of a run, since a property may look at what comes of them: putting a prompt together
with what becomes of the answer, and giving up. A property that does not (`Uniform`) is
compositional in this sense (`Uniform.compositional`).
-/

namespace PromptTree.Workflow

/-- The fault is that a scope is needed where a child has returned a text. -/
def Fault.isNeedsScope : Fault → Bool
  | .needsScope .. => true
  | _ => false

/-- The fault comes of a template, a pattern, a page or a value, without a backend that has failed
and without attempts that were all rejected. -/
def Fault.isLocal : Fault → Bool
  | .template _ | .text _ | .pattern _ | .valueNotText | .page _ => true
  | .backend _ | .needsScope .. | .exhausted .. => false

theorem Fault.isNeedsScope_of_isLocal {fault : Fault} (ofItself : fault.isLocal = true) :
    fault.isNeedsScope = false := by
  cases fault with
  | needsScope => cases ofItself
  | _ => rfl

theorem matchesPattern_error {pattern : String} {value : Value} {fault : Fault}
    (failed : matchesPattern pattern value = .error fault) : fault.isLocal = true := by
  unfold matchesPattern at failed
  split at failed <;> cases failed <;> rfl

theorem checkVariable_error {values : Entries} {g : Generated} {fault : Fault}
    (failed : checkVariable values g = .error fault) : fault.isLocal = true := by
  unfold checkVariable at failed
  dsimp only at failed
  split at failed
  · split at failed <;> cases failed
    rfl
  · split at failed
    · rcases except_bind_eq_error_iff.mp failed with unmatched | ⟨found, _, compared⟩
      · exact matchesPattern_error unmatched
      · split at compared <;> try split at compared
        all_goals cases compared
    · rcases except_bind_eq_error_iff.mp failed with unmatched | ⟨found, _, compared⟩
      · cases unmatched
      · split at compared <;> try split at compared
        all_goals cases compared

theorem checkGenerated_error {values : Entries} {generated : List Generated} {fault : Fault}
    (failed : checkGenerated values generated = .error fault) : fault.isLocal = true := by
  induction generated with
  | nil => cases failed
  | cons g gs inductionHypothesis =>
    rcases except_bind_eq_error_iff.mp failed with checked | ⟨rejection, _, rest⟩
    · exact checkVariable_error checked
    · cases rejection with
      | none => exact inductionHypothesis rest
      | some rejection => cases rest

theorem searchVerdict_error {pattern text : String} {fault : Fault}
    (failed : searchVerdict pattern text = .error fault) : fault.isLocal = true := by
  unfold searchVerdict isFound at failed
  split at failed <;> cases failed
  rfl

variable {β : Type}

def giveUp {α : Type} (step : Step) (made : Nat) (last : Option Rejection) : Run β α := do
  Run.log .error s!"Step '{step.label}': giving up after {made} attempts"
  throw (.exhausted step.label made last)

/-- The property holds of the parts of a run that put no prompt to the backend, and of what is made
of parts that have it. -/
structure Unprompted (engine : Engine β) (holds : (α : Type) → Run β α → Prop) : Prop where
  pure {α : Type} (a : α) : holds α (Pure.pure a)
  bind {α γ : Type} {stretch : Run β α} {next : α → Run β γ} :
    holds α stretch → (∀ a, holds γ (next a)) → holds γ (stretch >>= next)
  throw {α : Type} (fault : Fault) : fault.isLocal = true → holds α (MonadExcept.throw fault)
  log (level : LogLevel) (message : String) : level ≠ .error → holds Unit (Run.log level message)
  pause (milliseconds : Int) : holds Unit (Run.note (.paused milliseconds))
  resolve (text : String) (scope : Scope) : holds String (Run.resolve engine text scope)
  giveUp {α : Type} (step : Step) (made : Nat) (last : Option Rejection) :
    holds α (Workflow.giveUp step made last)
  download (locator : String) : holds String (Run.download engine locator)

/-- The property holds of the parts of a run, and of what is made of parts that have it. -/
structure Compositional (engine : Engine β) (holds : (α : Type) → Run β α → Prop) : Prop
    extends Unprompted engine holds where
  askOver (step : Step) (prompt : String) (scope : Scope) :
    holds (Value × Scope) (Workflow.askOver engine step prompt scope)

namespace Unprompted

variable {engine : Engine β} {holds : (α : Type) → Run β α → Prop}
  (parts : Unprompted engine holds)
include parts

theorem ofExcept {α : Type} (outcome : Except Fault α)
    (ofItself : ∀ fault, outcome = .error fault → fault.isLocal = true) :
    holds α (Run.ofExcept outcome) := by
  cases outcome with
  | error fault => exact parts.throw fault (ofItself fault rfl)
  | ok a => exact parts.pure a

theorem resolveAll (scope : Scope) (pairs : List (String × String)) :
    holds _ (Run.resolveAll engine scope pairs) := by
  induction pairs with
  | nil => exact parts.pure []
  | cons pair pairs inductionHypothesis =>
    apply parts.bind (parts.resolve _ _)
    intro value
    exact parts.bind inductionHypothesis fun _ => parts.pure _

theorem bindFixed (step : Step) (scope : Scope) : holds _ (bindFixed engine step scope) :=
  parts.bind (parts.resolveAll _ _) fun _ => parts.pure _

theorem bindDownload (d : Download) (scope : Scope) : holds _ (bindDownload engine d scope) := by
  apply parts.bind (parts.resolve _ _)
  intro locator
  apply parts.bind (parts.download locator)
  intro text
  dsimp only
  split
  · exact parts.pure _
  · exact parts.throw _ rfl

theorem bindDownloads (ds : List Download) (scope : Scope) :
    holds _ (bindDownloads engine ds scope) := by
  induction ds generalizing scope with
  | nil => exact parts.pure scope
  | cons d ds inductionHypothesis =>
    exact parts.bind (parts.bindDownload d scope) fun _ => inductionHypothesis _

theorem answerJson (answer : Value) : holds String (answerJson answer) := by
  unfold Workflow.answerJson
  split
  · exact parts.pure _
  · exact parts.throw _ rfl

/-- An answer that is a map is shown and written over the scope. -/
theorem writeAnswer (step : Step) (answer : Value) (entries : Entries) (scope : Scope) :
    holds (Value × Scope) (do
      let shown ← Workflow.answerJson answer
      Run.log .debug s!"Step '{step.label}' response: {shown}"
      match scope.merge entries with
      | .ok candidate => return (answer, candidate)
      | .error e => MonadExcept.throw (Fault.text e)) := by
  apply parts.bind (parts.answerJson answer)
  intro shown
  apply parts.bind (parts.log .debug _ (by decide))
  intro _
  split
  · exact parts.pure _
  · exact parts.throw _ rfl

theorem logRejection (step : Step) (left : Nat) (prompt : String) (answer : Value)
    (rejection : Option Rejection) :
    holds Unit (logRejection step left prompt answer rejection) := by
  cases rejection with
  | none => exact parts.pure _
  | some rejection =>
    apply parts.bind (parts.log .warning _ (by decide))
    intro _
    split
    · exact parts.bind (parts.answerJson _) fun _ => parts.log .warning _ (by decide)
    · exact parts.pure _

theorem checkAnswer (step : Step) (scope : Scope) : holds _ (checkAnswer (β := β) step scope) :=
  parts.ofExcept _ fun _ => checkGenerated_error

mutual

theorem project (scope : Scope) : (projection : Projection) →
    holds _ (project engine scope projection)
  | .leaf _ => parts.bind (parts.resolve _ _) fun _ => parts.pure _
  | .record items => parts.bind (projectItems scope [] items) fun _ => parts.pure _
termination_by structural projection => projection

theorem projectItems (scope : Scope) (before : List (ItemKey × Projected)) :
    (items : List (Option String × Projection)) →
      holds _ (projectItems engine scope before items)
  | [] => parts.pure _
  | (_, projection) :: items =>
    parts.bind (project scope projection) fun _ => projectItems scope _ items
termination_by structural items => items

end

end Unprompted

namespace Compositional

variable {engine : Engine β} {holds : (α : Type) → Run β α → Prop}
  (parts : Compositional engine holds)
include parts

section Check

variable {check : Scope → Run β (Option Rejection)} (checked : ∀ scope, holds _ (check scope))
include checked

theorem attempt (step : Step) (template : String) (left made : Nat) (scope : Scope) :
    holds _ (attempt engine step template check left made scope) := by
  apply parts.bind (parts.log .info _ (by decide))
  intro _
  apply parts.bind (parts.resolve _ _)
  intro prompt
  apply parts.bind (parts.askOver _ _ _)
  intro answered
  apply parts.bind (checked _)
  intro rejection
  exact parts.bind (parts.logRejection _ _ _ _ _) fun _ => parts.pure _

theorem attempts (step : Step) (template : String) (left made : Nat) (scope : Scope)
    (last : Option Rejection) :
    holds _ (attempts engine step template check left made scope last) := by
  induction left generalizing made scope last with
  | zero => exact parts.giveUp step made last
  | succ left inductionHypothesis =>
    unfold Workflow.attempts
    split
    refine parts.bind (parts.pause _) fun _ => ?_
    all_goals
      apply parts.bind (parts.attempt checked _ _ _ _ _)
      intro tried
      split
      · exact parts.pure _
      · exact inductionHypothesis _ _ _

/-- What a step does between its downloads and its children. -/
theorem prompted (step : Step) (scope : Scope) : holds Scope (
    match step.usedPrompt with
    | none => return scope
    | some template => generate engine step template check scope) := by
  split
  · exact parts.pure _
  · exact parts.attempts checked _ _ _ _ _ _

theorem perform (step : Step) (scope : Scope) : holds _ (perform engine step check scope) := by
  apply parts.bind (parts.bindFixed step scope)
  intro scope
  apply parts.bind (parts.bindDownloads _ scope)
  intro scope
  exact parts.prompted checked step scope

end Check

theorem judge (question : String) (scope : Scope) : holds _ (judge engine question scope) :=
  parts.bind (parts.perform (parts.checkAnswer _) _ _) fun _ => parts.pure _

theorem checkValidator (v : Validator) (scope : Scope) :
    holds _ (checkValidator engine v scope) := by
  apply parts.bind (parts.resolve _ _)
  intro text
  have compared (verdict : Verdict) : holds (Option Rejection) (
      if verdict.verdict = v.expect then return none
      else
        return some
          (.verdict v.expect verdict.verdict verdict.explanation verdict.source text)) := by
    split
    · exact parts.pure _
    · exact parts.pure _
  dsimp only
  split
  · exact parts.bind (parts.ofExcept _ fun _ => searchVerdict_error) compared
  · exact parts.bind (parts.judge _ _) compared

theorem checkValidators (scope : Scope) (validators : List Validator) :
    holds _ (checkValidators engine scope validators) := by
  induction validators with
  | nil => exact parts.pure _
  | cons v vs inductionHypothesis =>
    apply parts.bind (parts.checkValidator v scope)
    intro rejection
    cases rejection with
    | none => exact inductionHypothesis
    | some rejection => exact parts.pure _

theorem validate (step : Step) (scope : Scope) : holds _ (validate engine step scope) := by
  apply parts.bind (parts.checkAnswer step scope)
  intro rejection
  cases rejection with
  | none => exact parts.checkValidators _ _
  | some rejection => exact parts.pure _

end Compositional

/-- The property holds of every single thing that a run does, whatever comes of it, and of what is
made of such things. -/
structure Uniform (engine : Engine β) (holds : (α : Type) → Run β α → Prop) : Prop where
  pure {α : Type} (a : α) : holds α (Pure.pure a)
  bind {α γ : Type} {stretch : Run β α} {next : α → Run β γ} :
    holds α stretch → (∀ a, holds γ (next a)) → holds γ (stretch >>= next)
  throw {α : Type} (fault : Fault) : fault.isNeedsScope = false → holds α (MonadExcept.throw fault)
  log (level : LogLevel) (message : String) : holds Unit (Run.log level message)
  pause (milliseconds : Int) : holds Unit (Run.note (.paused milliseconds))
  resolve (text : String) (scope : Scope) : holds String (Run.resolve engine text scope)
  ask (prompt : String) (schema : Value) : holds Value (Run.ask engine prompt schema)
  download (locator : String) : holds String (Run.download engine locator)

theorem Uniform.unprompted {engine : Engine β} {holds : (α : Type) → Run β α → Prop}
    (uniform : Uniform engine holds) : Unprompted engine holds where
  pure := uniform.pure
  bind := uniform.bind
  throw fault ofItself := uniform.throw fault (Fault.isNeedsScope_of_isLocal ofItself)
  log level message _ := uniform.log level message
  pause := uniform.pause
  resolve := uniform.resolve
  giveUp _ _ _ := uniform.bind (uniform.log _ _) fun _ => uniform.throw _ rfl
  download := uniform.download

theorem Uniform.compositional {engine : Engine β} {holds : (α : Type) → Run β α → Prop}
    (uniform : Uniform engine holds) : Compositional engine holds where
  toUnprompted := uniform.unprompted
  askOver step prompt scope := by
    apply uniform.bind (uniform.ask _ _)
    intro answer
    split
    · exact uniform.unprompted.writeAnswer step _ _ scope
    · exact uniform.throw _ rfl

end PromptTree.Workflow
