import Mathlib.Algebra.Ring.Nat
import PromptTree.Proofs.Template.Expansion
import PromptTree.Proofs.Workflow.Containment

/-!
How often a run asks the backend. `AsksAtMost` bounds the questions that a stretch of a run adds to
the journal; the bounds of two stretches add up. A step that asks for a verdict has no validators
and no children, so the loop of such a step is bounded by the number of attempts alone, and from
this bound those of validators, attempts, steps and trees follow in turn. Main statement: no run of
a tree puts more questions than the steps with a prompt allow (`run_questions_le`).
-/

namespace PromptTree

namespace Step

/-- How many of the step's validators leave the verdict to the backend. -/
def judged (step : Step) : Nat :=
  step.validators.countP (!·.byPattern)

/-- How many questions the steps of a tree with a prompt may put: one in each attempt, and in each
attempt as many for each validator without a pattern as there may be attempts. -/
def questionBound (attempts : Nat) (step : Step) : Nat :=
  ((step.nodes.filter (·.usedPrompt.isSome)).map fun node =>
    attempts * (1 + node.judged * attempts)).sum

theorem questionBound_eq (attempts : Nat) (step : Step) :
    step.questionBound attempts =
      (if step.usedPrompt.isSome then attempts * (1 + step.judged * attempts) else 0) +
        (step.children.map (questionBound attempts)).sum := by
  have below (children : List Step) :
      (((nodesOf children).filter (·.usedPrompt.isSome)).map fun node =>
        attempts * (1 + node.judged * attempts)).sum =
          (children.map (questionBound attempts)).sum := by
    induction children with
    | nil => rfl
    | cons child children inductionHypothesis =>
      simp only [nodesOf, List.filter_append, List.map_append, List.sum_append, List.map_cons,
        List.sum_cons, inductionHypothesis]
      rfl
  unfold questionBound at below ⊢
  rw [nodes_eq, List.filter_cons]
  split
  · rw [List.map_cons, List.sum_cons, below]
  · rw [below, Nat.zero_add]

theorem countP_orderedValidators (step : Step) :
    step.orderedValidators.countP (!·.byPattern) = step.judged := by
  unfold orderedValidators judged
  rw [List.countP_append, List.countP_filter, List.countP_filter]
  simp

theorem questionBound_eq_zero {step : Step}
    (noPrompt : ∀ node ∈ step.nodes, node.usedPrompt = none) (attempts : Nat) :
    step.questionBound attempts = 0 := by
  have none : step.nodes.filter (·.usedPrompt.isSome) = [] := by
    rw [List.filter_eq_nil_iff]
    intro node isNode
    simp [noPrompt node isNode]
  unfold questionBound
  rw [none]
  rfl

end Step

namespace Workflow

open Run

variable {β : Type}

def Event.isQuestion : Event → Bool
  | .asked .. => true
  | .fetched _ | .logged _ | .paused _ => false

def asked (s : Session β) : Nat :=
  s.journal.countP Event.isQuestion

/-- Wherever the stretch begins and however it ends, it puts no more questions than that. -/
def AsksAtMost (bound : Nat) (α : Type) (stretch : Run β α) : Prop :=
  ∀ s, asked (result stretch s).2 ≤ asked s + bound

section

variable {α γ : Type} {s : Session β}

theorem countP_isQuestion_logged (lines : List LogEntry) :
    (lines.map Event.logged).countP Event.isQuestion = 0 := by
  rw [List.countP_eq_zero]
  intro event isEvent
  obtain ⟨line, _, rfl⟩ := List.mem_map.mp isEvent
  simp [Event.isQuestion]

theorem countP_isQuestion_fetchEvents (locator : String) (reply : Reply String String β) :
    (fetchEvents locator reply).countP Event.isQuestion = 0 := by
  unfold fetchEvents
  rw [List.countP_append, List.countP_cons_of_neg (by simp [Event.isQuestion]),
    countP_isQuestion_logged]
  cases reply.outcome with
  | ok text => rfl
  | error message => rfl

theorem asked_of_journal {t : Session β} {events : List Event} {count : Nat}
    (added : t.journal = s.journal ++ events) (counted : events.countP Event.isQuestion = count) :
    asked t = asked s + count := by
  unfold asked
  rw [added, List.countP_append, counted]

theorem AsksAtMost.mono {stretch : Run β α} {bound larger : Nat}
    (asks : AsksAtMost bound α stretch) (le : bound ≤ larger) : AsksAtMost larger α stretch := by
  intro s
  have first := asks s
  omega

theorem asksAtMost_pure (bound : Nat) (a : α) : AsksAtMost bound α (pure (f := Run β) a) := by
  intro s
  exact Nat.le_add_right _ _

theorem asksAtMost_throw (bound : Nat) (fault : Fault) :
    AsksAtMost bound α (throw (m := Run β) fault) := by
  intro s
  exact Nat.le_add_right _ _

theorem AsksAtMost.bind {stretch : Run β α} {next : α → Run β γ} {n m : Nat}
    (first : AsksAtMost n α stretch) (second : ∀ a, AsksAtMost m γ (next a)) :
    AsksAtMost (n + m) γ (stretch >>= next) := by
  intro s
  have before := first s
  rw [result_bind]
  rcases ended : result stretch s with ⟨fault | a, t⟩
  · rw [ended] at before
    dsimp only at before ⊢
    omega
  · rw [ended] at before
    have after := second a t
    dsimp only at before ⊢
    omega

theorem AsksAtMost.quietly {stretch : Run β α} {next : α → Run β γ} {bound : Nat}
    (first : AsksAtMost 0 α stretch) (second : ∀ a, AsksAtMost bound γ (next a)) :
    AsksAtMost bound γ (stretch >>= next) :=
  (first.bind second).mono (Nat.le_of_eq (Nat.zero_add bound))

/-! ### Parts without a question -/

theorem unprompted_asksAtMost (engine : Engine β) : Unprompted engine (AsksAtMost 0) where
  pure a := asksAtMost_pure 0 a
  bind first second := first.bind second
  throw fault _ := asksAtMost_throw 0 fault
  log level message _ := by
    intro s
    rw [result_log]
    exact Nat.le_of_eq (asked_of_journal (Session.journal_after s _) rfl)
  pause milliseconds := by
    intro s
    rw [result_note]
    exact Nat.le_of_eq (asked_of_journal (Session.journal_after s _) rfl)
  resolve text scope := by
    intro s
    rw [result_resolve]
    exact Nat.le_of_eq (asked_of_journal (Session.journal_after s _) (countP_isQuestion_logged _))
  giveUp step made last := by
    intro s
    unfold giveUp
    rw [result_bind_of_ok (result_log .error _ s), result_throw]
    exact Nat.le_of_eq (asked_of_journal (Session.journal_after s _) rfl)
  download locator := by
    intro s
    cases known : s.downloads.lookup locator with
    | some text =>
      rw [result_download_of_cached known]
      exact Nat.le_refl _
    | none =>
      rw [result_download_of_new known]
      exact Nat.le_of_eq
        (asked_of_journal (Session.journal_after s _) (countP_isQuestion_fetchEvents _ _))

/-! ### The loop -/

variable {engine : Engine β}

theorem asksAtMost_ask (prompt : String) (schema : Value) :
    AsksAtMost 1 _ (ask engine prompt schema) := by
  intro s
  rw [result_ask]
  refine Nat.le_of_eq (asked_of_journal (Session.journal_after s _) ?_)
  rw [List.countP_cons_of_pos rfl, countP_isQuestion_logged]

theorem asksAtMost_askOver (step : Step) (prompt : String) (scope : Scope) :
    AsksAtMost 1 _ (askOver engine step prompt scope) := by
  have quiet := unprompted_asksAtMost engine
  apply (asksAtMost_ask prompt (schema step.generatedVariables)).bind (m := 0)
  intro answer
  split
  · exact quiet.writeAnswer step _ _ scope
  · exact asksAtMost_throw 0 _

theorem asked_resumed (engine : Engine β) (made : Nat) (s : Session β) :
    asked (resumed engine made s) = asked s := by
  unfold resumed
  split
  · rfl
  · exact asked_of_journal (Session.journal_after s _) rfl

section Check

variable {check : Scope → Run β (Option Rejection)} {bound : Nat}
  (checked : ∀ scope, AsksAtMost bound _ (check scope))
include checked

theorem asksAtMost_attempt (step : Step) (template : String) (left made : Nat) (scope : Scope) :
    AsksAtMost (1 + bound) _ (attempt engine step template check left made scope) := by
  have quiet := unprompted_asksAtMost engine
  apply (quiet.log .info _ (by decide)).quietly
  intro _
  apply (quiet.resolve template scope).quietly
  intro prompt
  apply (asksAtMost_askOver step prompt scope).bind
  intro answered
  apply (checked answered.2).bind (m := 0)
  intro rejection
  exact (quiet.logRejection step left prompt answered.1 rejection).quietly fun _ => quiet.pure _

theorem asksAtMost_attempts (step : Step) (template : String) (left made : Nat) (scope : Scope)
    (last : Option Rejection) :
    AsksAtMost (left * (1 + bound)) _
      (attempts engine step template check left made scope last) := by
  have quiet := unprompted_asksAtMost engine
  induction left generalizing made scope last with
  | zero =>
    rw [Nat.zero_mul]
    exact quiet.giveUp step made last
  | succ left inductionHypothesis =>
    intro s
    rw [result_attempts_succ, ← asked_resumed engine made s, Nat.succ_mul, Nat.add_comm (left * _)]
    refine (asksAtMost_attempt checked step template left made scope).bind ?_ (resumed engine made s)
    intro tried
    split
    · exact asksAtMost_pure _ _
    · exact inductionHypothesis _ _ _

/-- A step without a prompt puts no question. -/
theorem asksAtMost_perform (step : Step) (scope : Scope) :
    AsksAtMost (if step.usedPrompt.isSome then engine.retry.attempts * (1 + bound) else 0) _
      (perform engine step check scope) := by
  have quiet := unprompted_asksAtMost engine
  apply (quiet.bindFixed step scope).quietly
  intro scope
  apply (quiet.bindDownloads step.downloads scope).quietly
  intro scope
  cases step.usedPrompt with
  | none => exact asksAtMost_pure _ _
  | some template => exact asksAtMost_attempts checked step template _ 0 scope none

end Check

/-! ### Verdicts -/

/-- Asking for a verdict puts one question in each attempt, since there are no validators. -/
theorem asksAtMost_judge (question : String) (scope : Scope) :
    AsksAtMost engine.retry.attempts _ (judge engine question scope) := by
  have quiet := unprompted_asksAtMost engine
  have performed : AsksAtMost engine.retry.attempts _
      (perform engine (Step.judge question) (checkAnswer (Step.judge question)) scope) := by
    apply (asksAtMost_perform (quiet.checkAnswer _) _ scope).mono
    split <;> omega
  exact performed.bind (m := 0) fun _ => quiet.pure _

theorem asksAtMost_checkValidator (v : Validator) (scope : Scope) :
    AsksAtMost (if v.byPattern then 0 else engine.retry.attempts) _
      (checkValidator engine v scope) := by
  have quiet := unprompted_asksAtMost engine
  have compared (text : String) (verdict : Verdict) : AsksAtMost (β := β) 0 (Option Rejection) (
      if verdict.verdict = v.expect then return none
      else
        return some
          (.verdict v.expect verdict.verdict verdict.explanation verdict.source text)) := by
    split
    · exact quiet.pure _
    · exact quiet.pure _
  apply (quiet.resolve v.text scope).quietly
  intro text
  unfold Validator.byPattern
  cases usedPattern v.pattern with
  | none => exact (asksAtMost_judge text scope).bind (compared text)
  | some pattern => exact (quiet.ofExcept _ fun _ => searchVerdict_error).bind (compared text)

theorem asksAtMost_checkValidators (scope : Scope) (validators : List Validator) :
    AsksAtMost (validators.countP (!·.byPattern) * engine.retry.attempts) _
      (checkValidators engine scope validators) := by
  induction validators with
  | nil => exact asksAtMost_pure _ _
  | cons v vs inductionHypothesis =>
    have both : AsksAtMost ((if v.byPattern then 0 else engine.retry.attempts) +
        vs.countP (!·.byPattern) * engine.retry.attempts) _
        (checkValidators engine scope (v :: vs)) := by
      apply (asksAtMost_checkValidator v scope).bind
      intro rejection
      cases rejection with
      | none => exact inductionHypothesis
      | some rejection => exact asksAtMost_pure _ _
    apply both.mono
    rw [List.countP_cons]
    cases v.byPattern with
    | true => simp
    | false => simp [Nat.add_mul, Nat.add_comm]

theorem asksAtMost_validate (step : Step) (scope : Scope) :
    AsksAtMost (step.judged * engine.retry.attempts) _ (validate engine step scope) := by
  have quiet := unprompted_asksAtMost engine
  apply (quiet.checkAnswer step scope).quietly
  intro rejection
  cases rejection with
  | none =>
    rw [← Step.countP_orderedValidators]
    exact asksAtMost_checkValidators scope step.orderedValidators
  | some rejection => exact asksAtMost_pure _ _

/-! ### Trees -/

theorem asksAtMost_scopeFor (step : Step) (consumer : String) (value : Projected) :
    AsksAtMost 0 _ (scopeFor (β := β) step consumer value) := by
  unfold scopeFor
  split
  · exact asksAtMost_pure _ _
  · exact asksAtMost_throw _ _

theorem asksAtMost_runChildren {children : List Step} {bound : Step → Nat}
    (asks : ∀ child ∈ children, ∀ scope, AsksAtMost (bound child) _ (run engine child scope))
    (step : Step) (value : Projected) :
    AsksAtMost (children.map bound).sum _ (runChildren engine step value children) := by
  induction children generalizing value with
  | nil => exact asksAtMost_pure _ _
  | cons child children inductionHypothesis =>
    rw [List.forall_mem_cons] at asks
    rw [List.map_cons, List.sum_cons]
    apply (asksAtMost_scopeFor step child.label value).quietly
    intro scope
    apply (asks.1 scope).bind
    intro value
    exact inductionHypothesis asks.2 value

theorem asksAtMost_run (step : Step) (scope : Scope) :
    AsksAtMost (step.questionBound engine.retry.attempts) _ (run engine step scope) := by
  have quiet := unprompted_asksAtMost engine
  induction step using Step.byChildren generalizing scope with
  | hereditary step inductionHypothesis =>
    rw [run_eq, Step.questionBound_eq]
    apply (asksAtMost_perform (asksAtMost_validate step) step scope).bind
    intro working
    apply (asksAtMost_runChildren inductionHypothesis step (.ofScope working)).bind (m := 0)
    intro value
    split
    · exact quiet.pure _
    · apply (asksAtMost_scopeFor step "return" value).quietly
      intro scope
      exact quiet.project scope _

end

/-! ### Turns -/

def Turn.isQuestion : Turn → Bool
  | asked .. => true
  | fetched .. | gaveUp .. => false

def questions (turns : List Turn) : Nat :=
  turns.countP Turn.isQuestion

theorem countP_isQuestion_event? (engine : Engine β) (turns : List Turn) :
    (turns.filterMap (Turn.event? engine)).countP Event.isQuestion = questions turns := by
  unfold questions
  induction turns with
  | nil => rfl
  | cons turn turns inductionHypothesis =>
    rw [List.filterMap_cons]
    cases turn with
    | asked prompt schema outcome =>
      rw [List.countP_cons_of_pos rfl, ← inductionHypothesis]
      exact List.countP_cons_of_pos rfl
    | fetched locator outcome =>
      rw [List.countP_cons_of_neg (by simp [Turn.isQuestion]), ← inductionHypothesis]
      exact List.countP_cons_of_neg (by simp [Event.isQuestion])
    | gaveUp step attempts last =>
      rw [List.countP_cons_of_neg (by simp [Turn.isQuestion]), ← inductionHypothesis]
      rfl

/-- The questions in the journal are those of the turns. -/
theorem Goes.asked {engine : Engine β} {s t : Session β} {turns : List Turn}
    (goes : Goes engine s turns t) : asked t = asked s + questions turns := by
  have contacts (u : Session β) :
      Workflow.asked u = (u.journal.filter Event.isContact).countP Event.isQuestion := by
    unfold Workflow.asked
    rw [List.countP_filter]
    congr 1
    funext event
    cases event <;> rfl
  rw [contacts, contacts, goes.contacts, List.countP_append, countP_isQuestion_event?]

/-- However the run of a tree goes and whatever comes of it, its turns put no more questions than
the steps with a prompt allow; without such a step there is no question, whatever validators the
steps have. -/
theorem run_questions_le (engine : Engine β) (step : Step) (scope : Scope) (s : Session β) :
    let ended := result (run engine step scope) s
    ∃ turns, Closes engine s turns ended.1 ended.2 ∧ asked ended.2 = asked s + questions turns ∧
      questions turns ≤ step.questionBound engine.retry.attempts ∧
      ((∀ node ∈ step.nodes, node.usedPrompt = none) → questions turns = 0) := by
  intro ended
  obtain ⟨turns, closes⟩ : ∃ turns, Closes engine s turns ended.1 ended.2 :=
    contained_run step scope s
  have counted := closes.goes.asked
  have bounded : questions turns ≤ step.questionBound engine.retry.attempts := by
    have atMost : asked ended.2 ≤ asked s + step.questionBound engine.retry.attempts :=
      asksAtMost_run step scope s
    omega
  refine ⟨turns, closes, counted, bounded, ?_⟩
  intro noPrompt
  rw [Step.questionBound_eq_zero noPrompt] at bounded
  exact Nat.le_zero.mp bounded

/-- An engine whose backend comes to the same verdict about everything. -/
def verdictEngine (verdict : String) : Engine Unit where
  toSources := Template.stillSources
  generate _ _ _ _ := ⟨.ok (.map (Entries.ofFields
    [("answer", .text verdict), ("answerExplanation", .text "so it is")])), [], ()⟩
  fetch _ _ := ⟨.error "no page", [], ()⟩
  selector := "judge"
  passes := Template.defaultPasses
  retry := .default

/-- A tree without prompts, in which the backend would have to judge two texts. -/
def promptlessTree : Step :=
  ⟨"root", none, [], [⟨"Is it good?", none, "yes"⟩], none,
    [⟨"leaf", none, [], [⟨"Is it short?", none, "no"⟩], none, []⟩]⟩

theorem run_questions_le_promptlessTree :
    (∀ node ∈ promptlessTree.nodes, node.usedPrompt = none) ∧
      ∃ turns, Goes (verdictEngine "yes") (.start ()) turns
          (result (run (verdictEngine "yes") promptlessTree .empty) (.start ())).2 ∧
        questions turns = 0 := by
  have noPrompt : ∀ node ∈ promptlessTree.nodes, node.usedPrompt = none := by
    simp [promptlessTree, Step.nodes, Step.nodesOf, Step.usedPrompt]
  obtain ⟨turns, closes, _, _, none⟩ :=
    run_questions_le (verdictEngine "yes") promptlessTree .empty (.start ())
  exact ⟨noPrompt, turns, closes.goes, none noPrompt⟩

end Workflow

end PromptTree
