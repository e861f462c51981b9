import Mathlib
import PromptTree.Proofs.Document.Loading
import PromptTree.Proofs.Template.Expansion
import PromptTree.Proofs.Workflow.Parts
import PromptTree.Proofs.Workflow.Tree

/-!
Which trees of steps return a text, and which of them come to an end. The check of a description is
static, the fault that it guards against is not; the main statement is that both are about the same
trees (`run_textSound`). Two inductions on the tree carry it: a run that returns has gone through a
text safe tree and returns what the tree says (`textSafe_of_result`), and a run through a text safe
tree finds a scope wherever it needs one (`neverNeedsScope_of_textSafe`).
-/

namespace PromptTree.Workflow

open Run

variable {β : Type} {engine : Engine β}

/-! ### What is returned -/

theorem isText_of_scopeFor {step : Step} {consumer : String} {value : Projected} {scope : Scope}
    {s t : Session β} (ended : result (scopeFor step consumer value) s = (.ok scope, t)) :
    value.isText = false := by
  cases value with
  | text text => cases ended
  | record items => rfl

theorem isText_of_project {scope : Scope} {projection : Projection} {value : Projected}
    {s t : Session β} (ended : result (project engine scope projection) s = (.ok value, t)) :
    value.isText = projection.isLeaf := by
  cases projection with
  | leaf template =>
    obtain ⟨text, _, _, returned⟩ := result_bind_eq_ok_iff.mp ended
    cases returned
    rfl
  | record items =>
    obtain ⟨items, _, _, returned⟩ := result_bind_eq_ok_iff.mp ended
    cases returned
    rfl

/-- The run of the step returns only if the tree is text safe, and then it returns what the tree
says. -/
def ReturnsAsSaid (engine : Engine β) (step : Step) : Prop :=
  ∀ scope s t value, result (run engine step scope) s = (.ok value, t) →
    step.TextSafe ∧ value.isText = step.yieldsText

theorem noneAfterText_of_result {step : Step} {children : List Step}
    (asSaid : ∀ child ∈ children, ReturnsAsSaid engine child)
    {before after : Projected} {s t : Session β}
    (ended : result (runChildren engine step before children) s = (.ok after, t)) :
    Step.NoneAfterText before.isText children ∧ (∀ child ∈ children, child.TextSafe) ∧
      after.isText = Step.textAfter before.isText children := by
  induction children generalizing before s with
  | nil =>
    cases ended
    exact ⟨trivial, by simp, rfl⟩
  | cons child children inductionHypothesis =>
    rw [List.forall_mem_cons] at asSaid
    obtain ⟨scope, _, found, ended⟩ := result_bind_eq_ok_iff.mp ended
    obtain ⟨value, _, returned, ended⟩ := result_bind_eq_ok_iff.mp ended
    obtain ⟨safe, isText⟩ := asSaid.1 _ _ _ _ returned
    obtain ⟨none, others, last⟩ := inductionHypothesis asSaid.2 ended
    rw [isText] at none last
    exact ⟨⟨isText_of_scopeFor found, none⟩, List.forall_mem_cons.mpr ⟨safe, others⟩, last⟩

theorem textSafe_of_result (step : Step) : ReturnsAsSaid engine step := by
  induction step using Step.byChildren with
  | hereditary step inductionHypothesis =>
    intro scope s t value ended
    rw [run_eq] at ended
    obtain ⟨working, _, _, ended⟩ := result_bind_eq_ok_iff.mp ended
    obtain ⟨last, _, childrenEnded, ended⟩ := result_bind_eq_ok_iff.mp ended
    obtain ⟨none, safe, lastText⟩ := noneAfterText_of_result inductionHypothesis childrenEnded
    rw [Step.textSafe_iff, Step.textLast_iff]
    cases returns : step.returns with
    | none =>
      rw [returns] at ended
      cases ended
      rw [Step.yieldsText_of_no_returns returns, ← Step.textAfter_false]
      exact ⟨⟨⟨none, .inl rfl⟩, safe⟩, lastText⟩
    | some projection =>
      rw [returns] at ended
      obtain ⟨scope, _, found, ended⟩ := result_bind_eq_ok_iff.mp ended
      have noText := isText_of_scopeFor found
      rw [Step.yieldsText_of_returns returns]
      exact ⟨⟨⟨none, .inr (lastText.symm.trans noText)⟩, safe⟩, isText_of_project ended⟩

/-! ### Where a scope is needed -/

/-- No run of the stretch ends because a scope is needed where there is a text. -/
def NeverNeedsScope (α : Type) (stretch : Run β α) : Prop :=
  ∀ s t fault, result stretch s = (.error fault, t) → fault.isNeedsScope = false

theorem neverNeedsScope_bind {α γ : Type} {stretch : Run β α} {next : α → Run β γ}
    (first : NeverNeedsScope α stretch)
    (second : ∀ a s t, result stretch s = (.ok a, t) → NeverNeedsScope γ (next a)) :
    NeverNeedsScope γ (stretch >>= next) := by
  intro s t fault failed
  rcases result_bind_eq_error_iff.mp failed with early | ⟨a, u, ended, late⟩
  · exact first s t fault early
  · exact second a s u ended u t fault late

theorem uniform_neverNeedsScope (engine : Engine β) : Uniform engine NeverNeedsScope where
  pure a := by
    intro s t fault failed
    cases failed
  bind first second := neverNeedsScope_bind first fun a _ _ _ => second a
  throw fault unscoped := by
    intro s t other failed
    cases failed
    exact unscoped
  log level message := by
    intro s t fault failed
    cases failed
  pause milliseconds := by
    intro s t fault failed
    cases failed
  resolve text scope := by
    intro s t fault failed
    rw [result_resolve] at failed
    dsimp only at failed
    cases resolved :
      (Template.resolve engine.toSources engine.passes text scope s.world).outcome with
    | ok text =>
      rw [resolved] at failed
      cases failed
    | error fault =>
      rw [resolved] at failed
      cases failed
      rfl
  ask prompt schema := by
    intro s t fault failed
    rw [result_ask] at failed
    dsimp only at failed
    cases answered : (engine.generate engine.selector prompt schema s.world).outcome with
    | ok answer =>
      rw [answered] at failed
      cases failed
    | error fault =>
      rw [answered] at failed
      cases failed
      rfl
  download locator := by
    intro s t fault failed
    cases known : s.downloads.lookup locator with
    | none =>
      rw [result_download_of_new known] at failed
      cases failed
    | some text =>
      rw [result_download_of_cached known] at failed
      cases failed

theorem neverNeedsScope_parts (engine : Engine β) : Compositional engine NeverNeedsScope :=
  (uniform_neverNeedsScope engine).compositional

theorem neverNeedsScope_scopeFor {step : Step} {consumer : String} {value : Projected}
    (noText : value.isText = false) :
    NeverNeedsScope Scope (scopeFor (β := β) step consumer value) := by
  cases value with
  | text text => cases noText
  | record items =>
    intro s t fault failed
    cases failed

theorem neverNeedsScope_runChildren {step : Step} {children : List Step}
    (unneeded : ∀ child ∈ children, ∀ scope, NeverNeedsScope _ (run engine child scope))
    {before : Projected} (none : Step.NoneAfterText before.isText children) :
    NeverNeedsScope _ (runChildren engine step before children) := by
  induction children generalizing before with
  | nil => exact (neverNeedsScope_parts engine).pure _
  | cons child children inductionHypothesis =>
    rw [List.forall_mem_cons] at unneeded
    apply neverNeedsScope_bind (neverNeedsScope_scopeFor none.1)
    intro scope _ _ _
    apply neverNeedsScope_bind (unneeded.1 scope)
    intro value s t returned
    have isText := (textSafe_of_result child _ _ _ _ returned).2
    have noneAfter := none.2
    rw [← isText] at noneAfter
    exact inductionHypothesis unneeded.2 noneAfter

theorem neverNeedsScope_of_textSafe (step : Step) (safe : step.TextSafe) (scope : Scope) :
    NeverNeedsScope _ (run engine step scope) := by
  induction step using Step.byChildren generalizing scope with
  | hereditary step inductionHypothesis =>
    have parts := neverNeedsScope_parts engine
    rw [Step.textSafe_iff, Step.textLast_iff] at safe
    obtain ⟨⟨none, returned⟩, childrenSafe⟩ := safe
    rw [run_eq]
    apply neverNeedsScope_bind (parts.perform (parts.validate step) step scope)
    intro working _ _ _
    have children : NeverNeedsScope _ (runChildren engine step (.ofScope working) step.children) :=
      neverNeedsScope_runChildren
        (fun child isChild => inductionHypothesis child isChild (childrenSafe child isChild)) none
    apply neverNeedsScope_bind children
    intro value _ _ ended
    cases returns : step.returns with
    | none => exact parts.pure _
    | some projection =>
      have lastText := (noneAfterText_of_result (fun child _ => textSafe_of_result child) ended).2.2
      rcases returned with absurdity | noText
      · rw [returns] at absurdity
        cases absurdity
      · apply neverNeedsScope_bind (neverNeedsScope_scopeFor (lastText.trans noText))
        intro scope _ _ _
        exact parts.project scope projection

/-- The check of a description and the fault of a run are about the same trees. No workflow that is
loaded has a tree that is not text safe. A run through a text safe tree never ends because a scope
is needed where there is a text; a run through any other tree never returns. And a run that returns
does so with a text if the tree says that it returns one, and with a record if it does not. -/
theorem run_textSound (engine : Engine β) (step : Step) (scope : Scope) (s : Session β) :
    (∀ document, Document.Loaded document → document.root.TextSafe) ∧
      (step.TextSafe → ∀ label consumer,
        (result (run engine step scope) s).1 ≠ .error (.needsScope label consumer)) ∧
      (∀ value, (result (run engine step scope) s).1 = .ok value →
        if step.yieldsText then ∃ text, value = .text text else ∃ items, value = .record items) ∧
      (¬ step.TextSafe → ∀ value, (result (run engine step scope) s).1 ≠ .ok value) := by
  rcases ended : result (run engine step scope) s with ⟨outcome, t⟩
  refine ⟨fun _ loaded => loaded.textSafe, ?_, ?_, ?_⟩
  · rintro safe label consumer rfl
    have unscoped := neverNeedsScope_of_textSafe step safe scope s t _ ended
    cases unscoped
  · rintro value rfl
    have isText := (textSafe_of_result step scope s t value ended).2
    rw [← isText]
    cases value with
    | text text => exact ⟨text, rfl⟩
    | record items => exact ⟨items, rfl⟩
  · rintro unsafeTree value rfl
    exact unsafeTree (textSafe_of_result step scope s t value ended).1

def deafEngine : Engine Unit where
  toSources := Template.stillSources
  generate _ _ _ _ := ⟨.error (.failed "no backend"), [], ()⟩
  fetch _ _ := ⟨.error "no page", [], ()⟩
  selector := "none"
  passes := Template.defaultPasses
  retry := .default

def textStep : Step := ⟨"text", none, [], [], some (.leaf (some "yes")), []⟩

/-- A step with a child that returns a text before another one. -/
def twoTexts : Step := ⟨"twice", none, [], [], none, [textStep, textStep]⟩

theorem run_textSound_of_examples :
    (∃ document, Document.Loaded document ∧ document.root.TextSafe) ∧
      (textStep.TextSafe ∧ ∀ label consumer,
        (result (run deafEngine textStep .empty) (.start ())).1 ≠
          .error (.needsScope label consumer)) ∧
      ((result (run deafEngine textStep .empty) (.start ())).1 = .ok (.text "yes") ∧
        if textStep.yieldsText then ∃ text, Projected.text "yes" = .text text
        else ∃ items, Projected.text "yes" = .record items) ∧
      (¬ twoTexts.TextSafe ∧ ∀ value,
        (result (run deafEngine twoTexts .empty) (.start ())).1 ≠ .ok value) := by
  obtain ⟨loaded, safe, returned, _⟩ := run_textSound deafEngine textStep .empty (.start ())
  obtain ⟨_, _, _, refused⟩ := run_textSound deafEngine twoTexts .empty (.start ())
  have textStepSafe : textStep.TextSafe := by
    rw [Step.textSafe_iff, Step.textLast_iff]
    exact ⟨⟨trivial, .inr rfl⟩, by simp [textStep]⟩
  have twoTextsUnsafe : ¬ twoTexts.TextSafe := by
    intro safe
    have last := safe twoTexts (Step.mem_nodes_self twoTexts) [] textStep [textStep] rfl rfl
    cases last.1
  have answered : (result (run deafEngine textStep .empty) (.start ())).1 = .ok (.text "yes") := by
    cbv
  have year : Document.Loaded _ := .value (v := .map Document.yearQuestion) rfl
  exact ⟨⟨_, year, loaded _ year⟩, ⟨textStepSafe, safe textStepSafe⟩,
    ⟨answered, returned _ answered⟩, twoTextsUnsafe, refused twoTextsUnsafe⟩

end PromptTree.Workflow
