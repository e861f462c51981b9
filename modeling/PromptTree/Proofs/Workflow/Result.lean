import PromptTree.Proofs.Stretch
import PromptTree.Workflow.Interpreter

/-!
What the single things that a run does come to, and what they add to its session.
-/

namespace PromptTree.Workflow

namespace Session

variable {β : Type}

def after (s : Session β) (events : List Event) : Session β :=
  { s with journal := s.journal ++ events }

@[simp] theorem journal_after (s : Session β) (events : List Event) :
    (s.after events).journal = s.journal ++ events := rfl

@[simp] theorem after_nil (s : Session β) : s.after [] = s := by
  simp [after]

@[simp] theorem after_after (s : Session β) (events more : List Event) :
    (s.after events).after more = s.after (events ++ more) := by
  simp [after]

end Session

namespace Run

variable {β : Type}

@[simp] theorem result_note (event : Event) (s : Session β) :
    result (note event) s = (.ok (), s.after [event]) := rfl

@[simp] theorem result_noteAll (lines : List LogEntry) (s : Session β) :
    result (noteAll lines) s = (.ok (), s.after (lines.map .logged)) := rfl

@[simp] theorem result_log (level : LogLevel) (message : String) (s : Session β) :
    result (log level message) s =
      (.ok (), s.after [.logged ⟨.run, level, s!"[{runId}] {message}"⟩]) := rfl

/-- A template is resolved without any effect but log lines and what its sources depend on. -/
theorem result_resolve (engine : Engine β) (text : String) (scope : Scope) (s : Session β) :
    result (resolve engine text scope) s =
      let resolved := Template.resolve engine.toSources engine.passes text scope s.world
      (resolved.outcome.mapError .template,
        { s.after
            ((resolved.unbound.map fun u => ⟨.template, .warning, u.message⟩).map .logged) with
          world := resolved.source }) := by
  unfold resolve
  simp only [result_bind, result_get, result_set, result_noteAll]
  cases (Template.resolve engine.toSources engine.passes text scope s.world).outcome <;> rfl

/-- A question is noted before it is put, and what the backend logs after it. -/
theorem result_ask (engine : Engine β) (prompt : String) (schema : Value) (s : Session β) :
    result (ask engine prompt schema) s =
      let reply := engine.generate engine.selector prompt schema s.world
      (reply.outcome.mapError .backend,
        { s.after (.asked engine.selector prompt schema :: reply.log.map .logged) with
          world := reply.world }) := by
  unfold ask
  simp only [result_bind, result_note, result_get, result_set, result_noteAll, Session.after,
    List.append_assoc, List.singleton_append]
  cases (engine.generate engine.selector prompt schema s.world).outcome <;> rfl

theorem result_download_of_cached {engine : Engine β} {locator text : String} {s : Session β}
    (cached : s.downloads.lookup locator = some text) :
    result (download engine locator) s = (.ok text, s) := by
  unfold download
  simp only [result_bind, result_get, cached, result_pure]

def fetchEvents (locator : String) (reply : Reply String String β) : List Event :=
  .fetched locator :: reply.log.map .logged ++
    match reply.outcome with
    | .ok _ => []
    | .error message => [.logged ⟨.run, .error, s!"[{runId}] {downloadFailure locator message}"⟩]

def fetchedText (reply : Reply String String β) : String :=
  match reply.outcome with
  | .ok text => text
  | .error _ => unknownPage

/-- A page that is not known yet is fetched and remembered, also if it cannot be downloaded. -/
theorem result_download_of_new {engine : Engine β} {locator : String} {s : Session β}
    (new : s.downloads.lookup locator = none) :
    result (download engine locator) s =
      let reply := engine.fetch locator s.world
      (.ok (fetchedText reply),
        { s.after (fetchEvents locator reply) with
          downloads := s.downloads ++ [(locator, fetchedText reply)]
          world := reply.world }) := by
  unfold download
  simp only [result_bind, result_get, new, result_note, result_set, result_noteAll, Session.after]
  cases replied : (engine.fetch locator s.world).outcome with
  | ok text =>
    simp only [result_bind, result_pure, result_modify, fetchedText, fetchEvents, replied,
      List.append_nil, List.append_assoc, List.singleton_append]
  | error message =>
    simp only [result_bind, result_log, result_pure, result_modify, fetchedText, fetchEvents,
      replied, Session.after, List.append_assoc, List.cons_append, List.nil_append]

end Run

/-- A run in its parts, with the step itself in place of its fields. -/
theorem run_eq {β : Type} (engine : Engine β) (step : Step) (scope : Scope) :
    run engine step scope = (do
      let working ← perform engine step (validate engine step) scope
      let value ← runChildren engine step (.ofScope working) step.children
      match step.returns with
      | none => return value
      | some projection => project engine (← scopeFor step "return" value) projection) := by
  cases step
  rfl

/-- An answer that is taken up has been written over the scope. -/
theorem taken_of_writeAnswer {β : Type} {s t : Session β} {step : Step} {answer : Value}
    {entries : Entries} {scope : Scope} {taken : Value × Scope}
    (ended : result (do
      let shown ← answerJson answer
      Run.log .debug s!"Step '{step.label}' response: {shown}"
      match scope.merge entries with
      | .ok candidate => return (answer, candidate)
      | .error e => throw (.text e)) s = (.ok taken, t)) :
    taken.1 = answer ∧ scope.merge entries = .ok taken.2 := by
  obtain ⟨_, _, _, ended⟩ := result_bind_eq_ok_iff.mp ended
  obtain ⟨_, _, _, ended⟩ := result_bind_eq_ok_iff.mp ended
  cases merged : scope.merge entries with
  | error e =>
    rw [merged] at ended
    cases ended
  | ok candidate =>
    rw [merged] at ended
    cases ended
    exact ⟨rfl, rfl⟩

end PromptTree.Workflow
