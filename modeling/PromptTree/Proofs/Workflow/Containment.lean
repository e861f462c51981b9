import PromptTree.Proofs.Workflow.Tree
import PromptTree.Proofs.Workflow.Turns

/-!
Which faults end a run, and that nothing happens after them. A turn is fatal if the backend fails,
if its answer is no map, or if a step gives up (`Turn.isFatal`); such a turn raises a fault that the
whole run ends with at once. A page that cannot be fetched is not fatal, and a rejected answer is
not even a turn. Main statement: every run of a workflow closes in this way
(`runDocument_closes`).
-/

namespace PromptTree.Workflow

open Run

variable {β : Type}

namespace Turn

def isFatal : Turn → Bool
  | asked _ _ (.ok answer) => answer.asMap?.isNone
  | asked _ _ (.error _) => true
  | fetched _ _ => false
  | gaveUp .. => true

inductive Raises : Turn → Fault → Prop where
  | unanswered {prompt : String} {schema : Value} {fault : Backend.Fault} :
    Raises (.asked prompt schema (.error fault)) (.backend fault)
  | notMap {prompt : String} {schema answer : Value} {step : Step} :
    answer.asMap? = none →
    Raises (.asked prompt schema (.ok answer)) (.backend (.failed
      s!"Backend returned {answer.kindName} instead of a mapping for step '{step.label}'"))
  | exhausted {step : String} {attempts : Nat} {last : Option Rejection} :
    Raises (.gaveUp step attempts last) (.exhausted step attempts last)

/-- The turns that a run cannot go on after are those that raise a fault. -/
theorem isFatal_iff {turn : Turn} : turn.isFatal = true ↔ ∃ fault, turn.Raises fault := by
  constructor
  · intro isFatal
    cases turn with
    | asked prompt schema outcome =>
      cases outcome with
      | error fault => exact ⟨_, .unanswered⟩
      | ok answer =>
        exact ⟨_, @Raises.notMap _ _ _ default (Option.isNone_iff_eq_none.mp isFatal)⟩
    | fetched locator outcome => cases isFatal
    | gaveUp step attempts last => exact ⟨_, .exhausted⟩
  · rintro ⟨fault, raises⟩
    cases raises with
    | unanswered => rfl
    | notMap isMap => exact Option.isNone_iff_eq_none.mpr isMap
    | exhausted => rfl

end Turn

/-- How a stretch closes after some turns: with a result, without a result because of a fault of its
own, or without a result because of what the last turn raises. No turn is fatal but the last one,
and the session is left as the last turn leaves it. -/
inductive Closes (engine : Engine β) (s : Session β) {α : Type} :
    List Turn → Except Fault α → Session β → Prop where
  | returned {turns : List Turn} {a : α} {t : Session β} :
    Goes engine s turns t → (∀ turn ∈ turns, turn.isFatal = false) → Closes engine s turns (.ok a) t
  | stopped {turns : List Turn} {fault : Fault} {t : Session β} :
    Goes engine s turns t → (∀ turn ∈ turns, turn.isFatal = false) →
    fault.isLocal = true ∨ fault.isNeedsScope = true → Closes engine s turns (.error fault) t
  | fatal {turns : List Turn} {turn : Turn} {fault : Fault} {t u : Session β} :
    Goes engine s turns t → (∀ turn ∈ turns, turn.isFatal = false) → Takes engine t turn u →
    turn.Raises fault → Closes engine s (turns ++ [turn]) (.error fault) u

/-- Wherever the stretch begins, it closes after some turns. -/
def Contained (engine : Engine β) (α : Type) (stretch : Run β α) : Prop :=
  ∀ s, ∃ turns, Closes engine s turns (result stretch s).1 (result stretch s).2

section

variable {engine : Engine β} {α γ : Type} {s t u : Session β}

/-! ### Stretches in general -/

theorem Closes.after {turns more : List Turn} {outcome : Except Fault α}
    (goes : Goes engine s turns t) (harmless : ∀ turn ∈ turns, turn.isFatal = false)
    (closes : Closes engine t more outcome u) : Closes engine s (turns ++ more) outcome u := by
  have both {more : List Turn} (others : ∀ turn ∈ more, turn.isFatal = false) :
      ∀ turn ∈ turns ++ more, turn.isFatal = false := by
    intro turn isTurn
    rcases List.mem_append.mp isTurn with isFirst | isOther
    · exact harmless turn isFirst
    · exact others turn isOther
  cases closes with
  | returned later others => exact .returned (goes.trans later) (both others)
  | stopped later others itsOwn => exact .stopped (goes.trans later) (both others) itsOwn
  | fatal later others taken raises =>
    rw [← List.append_assoc]
    exact .fatal (goes.trans later) (both others) taken raises

theorem Closes.goes {turns : List Turn} {outcome : Except Fault α}
    (closes : Closes engine s turns outcome t) : Goes engine s turns t := by
  cases closes with
  | returned goes _ => exact goes
  | stopped goes _ _ => exact goes
  | fatal goes _ taken _ => exact goes.turn taken

/-- A fault that ends a stretch ends whatever the stretch is a part of. -/
theorem Closes.of_error {turns : List Turn} {fault : Fault}
    (closes : Closes engine s turns (.error fault : Except Fault α) t) :
    Closes engine s turns (.error fault : Except Fault γ) t := by
  cases closes with
  | stopped goes harmless itsOwn => exact .stopped goes harmless itsOwn
  | fatal goes harmless taken raises => exact .fatal goes harmless taken raises

theorem contained_pure (a : α) : Contained engine α (pure a) := by
  intro s
  exact ⟨[], .returned .start (by simp)⟩

theorem contained_bind {stretch : Run β α} {next : α → Run β γ}
    (first : Contained engine α stretch) (second : ∀ a, Contained engine γ (next a)) :
    Contained engine γ (stretch >>= next) := by
  intro s
  obtain ⟨turns, closes⟩ := first s
  rcases ended : result stretch s with ⟨fault | a, t⟩
  · rw [ended] at closes
    rw [result_bind_of_error ended]
    exact ⟨turns, closes.of_error⟩
  · rw [ended] at closes
    obtain ⟨more, later⟩ := second a t
    rw [result_bind_of_ok ended]
    cases closes with
    | returned goes harmless => exact ⟨turns ++ more, later.after goes harmless⟩

theorem contained_throw {fault : Fault}
    (itsOwn : fault.isLocal = true ∨ fault.isNeedsScope = true) :
    Contained engine α (throw fault) := by
  intro s
  exact ⟨[], .stopped .start (by simp) itsOwn⟩

theorem contained_get : Contained engine (Session β) get := by
  intro s
  exact ⟨[], .returned .start (by simp)⟩

theorem contained_log (level : LogLevel) (message : String) (noError : level ≠ .error) :
    Contained engine Unit (log level message) := by
  intro s
  exact ⟨[], .returned (.quiet .start (.logged level message noError)) (by simp)⟩

/-! ### Turns -/

/-- What comes of a question that is put to the backend. -/
theorem exists_taken_of_ask {prompt : String} {schema : Value} {outcome : Except Fault Value}
    (asked : result (ask engine prompt schema) s = (outcome, t)) :
    ∃ reply : Except Backend.Fault Value,
      Takes engine s (.asked prompt schema reply) t ∧ outcome = reply.mapError .backend := by
  have taken : Takes engine s (.asked prompt schema _) _ := .asked prompt schema
  rw [asked] at taken
  rw [result_ask] at asked
  obtain ⟨rfl, _⟩ := Prod.mk.inj asked
  exact ⟨_, taken, rfl⟩

theorem contained_giveUp (step : Step) (made : Nat) (last : Option Rejection) :
    Contained engine α (giveUp step made last) := by
  intro s
  exact ⟨[] ++ [_], .fatal .start (by simp) (.gaveUp step made last) .exhausted⟩

theorem contained_download (locator : String) : Contained engine _ (download engine locator) := by
  intro s
  cases known : s.downloads.lookup locator with
  | some text =>
    rw [result_download_of_cached known]
    exact ⟨[], .returned .start (by simp)⟩
  | none =>
    have taken : Takes engine s (.fetched locator _) _ := .fetched known
    rw [result_download_of_new known] at taken ⊢
    exact ⟨[] ++ [_], .returned (.turn .start taken) (by simp [Turn.isFatal])⟩

theorem contained_resolve (text : String) (scope : Scope) :
    Contained engine _ (resolve engine text scope) := by
  intro s
  have goes : Goes engine s [] (result (resolve engine text scope) s).2 :=
    .quiet .start (.resolved text scope)
  rw [result_resolve] at goes ⊢
  dsimp only at goes ⊢
  cases (Template.resolve engine.toSources engine.passes text scope s.world).outcome with
  | ok resolved => exact ⟨[], .returned goes (by simp)⟩
  | error fault => exact ⟨[], .stopped goes (by simp) (.inl rfl)⟩

theorem contained_unprompted (engine : Engine β) : Unprompted engine (Contained engine) where
  pure := contained_pure
  bind := contained_bind
  throw fault ofItself := contained_throw (.inl ofItself)
  log := contained_log
  pause milliseconds s := ⟨[], .returned (.quiet .start (.paused milliseconds)) (by simp)⟩
  resolve := contained_resolve
  giveUp := contained_giveUp
  download := contained_download

theorem contained_askOver (step : Step) (prompt : String) (scope : Scope) :
    Contained engine _ (askOver engine step prompt scope) := by
  intro s
  rcases asked : result (ask engine prompt (schema step.generatedVariables)) s with ⟨outcome, t⟩
  obtain ⟨reply, taken, rfl⟩ := exists_taken_of_ask asked
  cases reply with
  | error fault =>
    rw [result_askOver_of_error asked]
    exact ⟨[] ++ [_], .fatal .start (by simp) taken .unanswered⟩
  | ok answer =>
    cases isMap : answer.asMap? with
    | none =>
      rw [result_askOver_of_notMap asked isMap]
      exact ⟨[] ++ [_], .fatal .start (by simp) taken (.notMap isMap)⟩
    | some entries =>
      obtain rfl := eq_map_of_asMap? isMap
      obtain ⟨turns, closes⟩ := (contained_unprompted engine).writeAnswer step (.map entries) entries scope t
      unfold askOver
      rw [result_bind_of_ok asked]
      refine ⟨[] ++ [_] ++ turns, closes.after (.turn .start taken) ?_⟩
      simp [Turn.isFatal, isMap]

theorem contained_parts (engine : Engine β) : Compositional engine (Contained engine) where
  toUnprompted := contained_unprompted engine
  askOver := contained_askOver

/-! ### Runs -/

theorem contained_scopeFor (step : Step) (consumer : String) (value : Projected) :
    Contained engine _ (scopeFor step consumer value) := by
  unfold scopeFor
  split
  · exact contained_pure _
  · exact contained_throw (.inr rfl)

theorem contained_runChildren {children : List Step}
    (contained : ∀ child ∈ children, ∀ scope, Contained engine _ (run engine child scope))
    (step : Step) (value : Projected) :
    Contained engine _ (runChildren engine step value children) := by
  induction children generalizing value with
  | nil => exact contained_pure value
  | cons child children inductionHypothesis =>
    rw [List.forall_mem_cons] at contained
    apply contained_bind (contained_scopeFor _ _ _)
    intro scope
    apply contained_bind (contained.1 scope)
    intro value
    exact inductionHypothesis contained.2 value

theorem contained_return (step : Step) (value : Projected) : Contained engine _ (do
    match step.returns with
    | none => return value
    | some projection => project engine (← scopeFor step "return" value) projection) := by
  split
  · exact contained_pure _
  · apply contained_bind (contained_scopeFor _ _ _)
    intro scope
    exact (contained_parts engine).project scope _

/-- What a step does when the answer to its prompt has been accepted. -/
theorem contained_finish {step : Step}
    (contained : ∀ child ∈ step.children, ∀ scope, Contained engine _ (run engine child scope))
    (working : Scope) : Contained engine _ (do
      let value ← runChildren engine step (.ofScope working) step.children
      match step.returns with
      | none => return value
      | some projection => project engine (← scopeFor step "return" value) projection) := by
  apply contained_bind (contained_runChildren contained step _)
  intro value
  exact contained_return step value

theorem contained_run (step : Step) (scope : Scope) :
    Contained engine _ (run engine step scope) := by
  induction step using Step.byChildren generalizing scope with
  | hereditary step inductionHypothesis =>
    have parts := contained_parts engine
    rw [run_eq]
    apply contained_bind (parts.perform (parts.validate step) step scope)
    exact contained_finish inductionHypothesis

theorem contained_conclude (value : Projected) : Contained engine _ (do
    let downloaded := (← get).downloads.length
    log .info s!"Workflow finished ({downloaded} downloads cached)"
    return value) := by
  apply contained_bind contained_get
  intro s
  apply contained_bind (contained_log .info _ (by decide))
  intro _
  exact contained_pure value

theorem contained_runDocument (engine : Engine β) (document : Document) (initial : Entries) :
    Contained engine _ (runDocument engine document initial) := by
  unfold runDocument
  split
  · exact contained_throw (.inl rfl)
  · apply contained_bind (contained_log .info _ (by decide))
    intro _
    apply contained_bind (contained_run _ _)
    exact contained_conclude

end

/-- However the run of a workflow goes, it goes by turns, and the questions and addresses in its
journal are those of the turns and no others. If a turn is fatal, because the backend fails or its
answer is no map or a step gives up, one that asks for a verdict included, it is the last turn and
the run ends at once with the fault that it raises. If no turn is fatal, the run ends with a result,
or with a fault of a template, a pattern, a page or a value, or because a scope is needed where
there is a text. So a rejection ends no run but as the last one of a step that gives up, and a page
that cannot be fetched ends none. -/
theorem runDocument_closes (engine : Engine β) (document : Document) (initial : Entries)
    (world : β) :
    let ended := result (runDocument engine document initial) (.start world)
    ∃ turns, Closes engine (.start world) turns ended.1 ended.2 ∧
      ended.2.journal.filter Event.isContact = turns.filterMap (Turn.event? engine) := by
  intro ended
  obtain ⟨turns, closes⟩ := contained_runDocument engine document initial (.start world)
  exact ⟨turns, closes, closes.goes.contacts⟩

end PromptTree.Workflow
