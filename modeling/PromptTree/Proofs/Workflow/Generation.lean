import PromptTree.Proofs.Workflow.Journal

/-!
The loop that asks the backend until an answer is accepted. `Attempted` says how an attempt goes
that gets as far as a verdict, `Interrupted` how one goes that does not, and `Rejected` how attempts
follow each other as long as none is accepted; none of the three mentions the loop. Main statement:
the loop makes such attempts, at most as many as the engine allows, and ends in one of three ways
(`generate_ends`).
-/

namespace PromptTree.Workflow

open Run

variable {β : Type}

/-- An attempt that has got as far as a verdict: the prompt that was put, the answer to it, the
scope with the answer written over it, why this was rejected if it was, and everything that
happened. -/
structure Trial where
  prompt : String
  answer : Entries
  candidate : Scope
  rejection : Option Rejection
  events : List Event

/-! ### Attempts -/

section

variable (engine : Engine β) (step : Step) (template : String)
  (check : Scope → Run β (Option Rejection)) (scope : Scope) (s : Session β)

/-- An attempt on top of a scope begins with the prompt: what the template comes to in that scope.
-/
def Prompted (outcome : Except Fault String) (t : Session β) : Prop :=
  ∃ begun, Noted s begun ∧ result (resolve engine template scope) begun = (outcome, t)

def Answered (prompt : String) (outcome : Except Fault Value) (t : Session β) : Prop :=
  ∃ resolved, Prompted engine template scope s (.ok prompt) resolved ∧
    result (ask engine prompt (schema step.generatedVariables)) resolved = (outcome, t)

/-- The answer is a map, and the scope with the map written over it is checked. -/
def Checked (prompt : String) (answer : Entries) (candidate : Scope)
    (outcome : Except Fault (Option Rejection)) (t : Session β) : Prop :=
  ∃ answered shown, Answered engine step template scope s prompt (.ok (.map answer)) answered ∧
    scope.merge answer = .ok candidate ∧ Noted answered shown ∧
    result (check candidate) shown = (outcome, t)

def Attempted (trial : Trial) (t : Session β) : Prop :=
  ∃ checked, Checked engine step template check scope s trial.prompt trial.answer trial.candidate
      (.ok trial.rejection) checked ∧
    Noted checked t ∧ t.journal = s.journal ++ trial.events

/-- An attempt without a verdict: the template cannot be resolved, there is no answer, the answer is
no map or has no text, or the check of it comes to a fault. -/
inductive Interrupted : Fault → Session β → Prop where
  | unresolved {fault : Fault} {t : Session β} :
    Prompted engine template scope s (.error fault) t → Interrupted fault t
  | unanswered {prompt : String} {fault : Fault} {t : Session β} :
    Answered engine step template scope s prompt (.error fault) t → Interrupted fault t
  | notMap {prompt : String} {answer : Value} {t : Session β} :
    Answered engine step template scope s prompt (.ok answer) t → answer.asMap? = none →
    Interrupted (.backend (.failed
      s!"Backend returned {answer.kindName} instead of a mapping for step '{step.label}'")) t
  | noText {prompt : String} {answer : Entries} {error : TextError} {answered t : Session β} :
    Answered engine step template scope s prompt (.ok (.map answer)) answered →
    (Value.map answer).toJson? Json.plain = none ∨ scope.merge answer = .error error →
    Noted answered t → Interrupted (.text error) t
  | unchecked {prompt : String} {answer : Entries} {candidate : Scope} {fault : Fault}
      {t : Session β} :
    Checked engine step template check scope s prompt answer candidate (.error fault) t →
    Interrupted fault t

end

section

variable {engine : Engine β} {step : Step} {template : String}
  {check : Scope → Run β (Option Rejection)}

theorem result_answerJson {answer : Value} {json : String}
    (shown : answer.toJson? Json.plain = some json)
    (s : Session β) : result (answerJson answer) s = (.ok json, s) := by
  unfold answerJson
  rw [shown]
  rfl

/-- An answer that has been shown can be shown again, so a rejection is logged without a fault. -/
theorem noted_logRejection {answer : Value} {json : String}
    (shown : answer.toJson? Json.plain = some json)
    (step : Step) (left : Nat) (prompt : String) (rejection : Option Rejection) (s : Session β) :
    ∃ t, result (logRejection step left prompt answer rejection) s = (.ok (), t) ∧ Noted s t := by
  cases rejection with
  | none => exact ⟨s, rfl, .refl s⟩
  | some rejection =>
    unfold logRejection
    rw [result_bind_of_ok (result_log .warning _ s)]
    split
    · rw [result_bind_of_ok (result_answerJson shown _), result_log]
      exact ⟨_, rfl, (noted_log s _ _).trans (noted_log _ _ _)⟩
    · exact ⟨_, rfl, noted_log s _ _⟩

theorem eq_map_of_asMap? {answer : Value} {entries : Entries}
    (isMap : answer.asMap? = some entries) : answer = .map entries := by
  cases answer with
  | map other =>
    cases isMap
    rfl
  | _ => cases isMap

theorem result_askOver_of_error {prompt : String} {scope : Scope} {fault : Fault} {s t : Session β}
    (asked : result (ask engine prompt (schema step.generatedVariables)) s = (.error fault, t)) :
    result (askOver engine step prompt scope) s = (.error fault, t) :=
  result_bind_of_error asked _

theorem result_askOver_of_notMap {prompt : String} {scope : Scope} {answer : Value}
    {s t : Session β}
    (asked : result (ask engine prompt (schema step.generatedVariables)) s = (.ok answer, t))
    (notMap : answer.asMap? = none) :
    result (askOver engine step prompt scope) s =
      (.error (.backend (.failed
        s!"Backend returned {answer.kindName} instead of a mapping for step '{step.label}'")),
        t) := by
  unfold askOver
  rw [result_bind_of_ok asked]
  cases answer with
  | map entries => cases notMap
  | _ => rfl

/-- What becomes of an answer that is a map. -/
theorem result_askOver_of_map {prompt : String} {scope : Scope} {answer : Entries} {s t : Session β}
    (asked : result (ask engine prompt (schema step.generatedVariables)) s =
      (.ok (.map answer), t)) :
    (∃ candidate json u, (Value.map answer).toJson? Json.plain = some json ∧
      scope.merge answer = .ok candidate ∧ Noted t u ∧
      result (askOver engine step prompt scope) s = (.ok (.map answer, candidate), u)) ∨
    ∃ error u, ((Value.map answer).toJson? Json.plain = none ∨ scope.merge answer = .error error) ∧
      Noted t u ∧ result (askOver engine step prompt scope) s = (.error (.text error), u) := by
  unfold askOver
  rw [result_bind_of_ok asked]
  cases shown : (Value.map answer).toJson? Json.plain with
  | none =>
    refine .inr ⟨.noText, t, .inl rfl, .refl t, ?_⟩
    have failed : result (answerJson (.map answer)) t = (.error (.text .noText), t) := by
      unfold answerJson
      rw [shown]
      rfl
    exact result_bind_of_error failed _
  | some json =>
    dsimp only
    rw [result_bind_of_ok (result_answerJson shown t), result_bind_of_ok (result_log .debug _ t)]
    have logged := noted_log t .debug s!"Step '{step.label}' response: {json}"
    cases merged : scope.merge answer with
    | ok candidate => exact .inl ⟨candidate, json, _, rfl, rfl, logged, rfl⟩
    | error error => exact .inr ⟨error, _, .inr rfl, logged, rfl⟩

/-- An attempt writes a log line before anything else. -/
theorem result_attempt (engine : Engine β) (step : Step) (template : String)
    (check : Scope → Run β (Option Rejection)) (left made : Nat) (scope : Scope) (s : Session β) :
    ∃ begun, Noted s begun ∧
      result (attempt engine step template check left made scope) s =
        result (do
          let prompt ← resolve engine template scope
          let (answer, candidate) ← askOver engine step prompt scope
          let rejection ← check candidate
          logRejection step left prompt answer rejection
          return { prompt, answer, candidate, rejection : Attempt }) begun :=
  ⟨_, noted_log s .info _, result_bind_of_ok (result_log .info _ s) _⟩

/-- How one attempt ends: with a verdict, or with a fault for want of one. -/
theorem attempt_ends (grows : ∀ scope, Grows _ (check scope)) (left made : Nat) (scope : Scope)
    (s : Session β) :
    (∃ tried trial t,
      result (attempt engine step template check left made scope) s = (.ok tried, t) ∧
      tried.candidate = trial.candidate ∧ tried.rejection = trial.rejection ∧
      Attempted engine step template check scope s trial t) ∨
    ∃ fault events t,
      result (attempt engine step template check left made scope) s = (.error fault, t) ∧
      Interrupted engine step template check scope s fault t ∧ t.journal = s.journal ++ events := by
  obtain ⟨events, journal⟩ := (grows_parts engine).attempt grows step template left made scope s
  obtain ⟨begun, logged, ended⟩ := result_attempt engine step template check left made scope s
  rcases resolution : result (resolve engine template scope) begun with ⟨fault | prompt, resolved⟩
  · rw [result_bind_of_error resolution] at ended
    rw [ended] at journal
    exact .inr ⟨fault, events, resolved, ended, .unresolved ⟨begun, logged, resolution⟩,
      journal.symm⟩
  have prompted : Prompted engine template scope s (.ok prompt) resolved :=
    ⟨begun, logged, resolution⟩
  rw [result_bind_of_ok resolution] at ended
  rcases reply : result (ask engine prompt (schema step.generatedVariables)) resolved with
    ⟨fault | answer, answered⟩
  · rw [result_bind_of_error (result_askOver_of_error reply)] at ended
    rw [ended] at journal
    exact .inr ⟨fault, events, answered, ended, .unanswered ⟨resolved, prompted, reply⟩,
      journal.symm⟩
  cases isMap : answer.asMap? with
  | none =>
    rw [result_bind_of_error (result_askOver_of_notMap reply isMap)] at ended
    rw [ended] at journal
    exact .inr ⟨_, events, answered, ended, .notMap ⟨resolved, prompted, reply⟩ isMap, journal.symm⟩
  | some entries =>
    obtain rfl := eq_map_of_asMap? isMap
    have answered : Answered engine step template scope s prompt (.ok (.map entries)) answered :=
      ⟨resolved, prompted, reply⟩
    rcases result_askOver_of_map reply with
      ⟨candidate, json, shown, isShown, merged, noted, merging⟩ |
      ⟨error, shown, failed, noted, merging⟩
    · rw [result_bind_of_ok merging] at ended
      dsimp only at ended
      rcases verdict : result (check candidate) shown with ⟨fault | rejection, checked⟩
      · rw [result_bind_of_error verdict] at ended
        rw [ended] at journal
        exact .inr ⟨fault, events, checked, ended,
          .unchecked ⟨_, shown, answered, merged, noted, verdict⟩, journal.symm⟩
      · obtain ⟨t, rejected, last⟩ :=
          noted_logRejection isShown step left prompt rejection checked
        rw [result_bind_of_ok verdict, result_bind_of_ok rejected, result_pure] at ended
        rw [ended] at journal
        exact .inl ⟨_, ⟨prompt, entries, candidate, rejection, events⟩, t, ended, rfl, rfl,
          checked, ⟨_, shown, answered, merged, noted, verdict⟩, last, journal.symm⟩
    · rw [result_bind_of_error merging] at ended
      rw [ended] at journal
      exact .inr ⟨_, events, shown, ended, .noText answered failed noted, journal.symm⟩

end

/-! ### The loop -/

section

variable (engine : Engine β) (step : Step) (template : String)
  (check : Scope → Run β (Option Rejection)) (scope : Scope) (s : Session β)

/-- The session in which an attempt begins after so many others: there is one pause before each
attempt but the first. -/
def resumed (engine : Engine β) (made : Nat) (s : Session β) : Session β :=
  if made = 0 then s else s.after [.paused engine.retry.milliseconds]

/-- Attempts that are all rejected, each on top of what the one before it has come to. -/
inductive Rejected : List Trial → Scope → Session β → Prop where
  | nil : Rejected [] scope s
  | snoc {trials : List Trial} {trial : Trial} {last : Scope} {u t : Session β}
      {rejection : Rejection} :
    Rejected trials last u →
    Attempted engine step template check last (resumed engine trials.length u) trial t →
    trial.rejection = some rejection → Rejected (trials ++ [trial]) trial.candidate t

def givingUp (step : Step) (made : Nat) : LogEntry :=
  ⟨.run, .error, s!"[{runId}] Step '{step.label}': giving up after {made} attempts"⟩

/-- How the loop ends: an attempt is accepted, as many as allowed have been rejected, or one is
interrupted. -/
inductive Ends : Except Fault Scope → Session β → Prop where
  | accepted {trials : List Trial} {trial : Trial} {last : Scope} {u t : Session β} :
    Rejected engine step template check scope s trials last u →
    trials.length < engine.retry.attempts →
    Attempted engine step template check last (resumed engine trials.length u) trial t →
    trial.rejection = none → Ends (.ok trial.candidate) t
  | exhausted {trials : List Trial} {trial : Trial} {last : Scope} {u : Session β} :
    Rejected engine step template check scope s trials last u →
    trials.length = engine.retry.attempts →
    trials.getLast? = some trial →
    Ends (.error (.exhausted step.label trials.length trial.rejection))
      (u.after [.logged (givingUp step trials.length)])
  | interrupted {trials : List Trial} {last : Scope} {u t : Session β} {fault : Fault}
      {events : List Event} :
    Rejected engine step template check scope s trials last u →
    trials.length < engine.retry.attempts →
    Interrupted engine step template check last (resumed engine trials.length u) fault t →
    t.journal = (resumed engine trials.length u).journal ++ events → Ends (.error fault) t

end

section

variable {engine : Engine β} {step : Step} {template : String}
  {check : Scope → Run β (Option Rejection)} {scope : Scope} {s : Session β}

theorem result_attempts_succ (engine : Engine β) (step : Step) (template : String)
    (check : Scope → Run β (Option Rejection)) (left made : Nat) (scope : Scope)
    (last : Option Rejection)
    (s : Session β) :
    result (attempts engine step template check (left + 1) made scope last) s =
      result (do
        let tried ← attempt engine step template check left made scope
        match tried.rejection with
        | none => return tried.candidate
        | some rejection =>
          attempts engine step template check left (made + 1) tried.candidate (some rejection))
        (resumed engine made s) := by
  conv => lhs; unfold attempts
  unfold resumed
  by_cases first : made = 0
  · rw [if_pos first]
    exact congrArg (fun stretch => result stretch s) (if_neg (by simpa using first))
  · rw [if_neg first, if_pos first]
    exact result_bind_of_ok (result_note _ s) _

/-- The loop carries on with attempts that were all rejected, so it can only end in the ways that
such attempts end. -/
theorem ends_of_rejected (grows : ∀ scope, Grows _ (check scope)) {left : Nat} {trials : List Trial}
    {current : Scope} {u : Session β} (last : Option Rejection)
    (rejected : Rejected engine step template check scope s trials current u)
    (count : trials.length + left = engine.retry.attempts)
    (lastOf : ∀ trial, trials.getLast? = some trial → trial.rejection = last) :
    Ends engine step template check scope s
      (result (attempts engine step template check left trials.length current last) u).1
      (result (attempts engine step template check left trials.length current last) u).2 := by
  induction left generalizing trials current u last with
  | zero =>
    have some : trials ≠ [] := by
      rintro rfl
      have positive := engine.retry.attempts_pos
      simp at count
      omega
    have isLast := List.getLast?_eq_some_getLast some
    rw [← lastOf _ isLast]
    exact .exhausted rejected count isLast
  | succ left inductionHypothesis =>
    have fewer : trials.length < engine.retry.attempts := by omega
    rw [result_attempts_succ]
    rcases attempt_ends grows left trials.length current (resumed engine trials.length u) with
      ⟨tried, trial, t, ended, candidate, rejection, attempted⟩ |
      ⟨fault, events, t, ended, interrupted, journal⟩
    · rw [result_bind_of_ok ended, candidate, rejection]
      cases verdict : trial.rejection with
      | none => exact .accepted rejected fewer attempted verdict
      | some rejection =>
        have more := Rejected.snoc rejected attempted verdict
        have counted : (trials ++ [trial]).length = trials.length + 1 := by simp
        have next := inductionHypothesis (some rejection) more (by omega) (by simp [verdict])
        rw [counted] at next
        exact next
    · rw [result_bind_of_error ended]
      exact .interrupted rejected fewer interrupted journal

theorem intercalate_concat {α : Type} (separator last : List α) (lists : List (List α)) :
    List.intercalate separator (lists ++ [last]) =
      List.intercalate separator lists ++ (if lists = [] then last else separator ++ last) := by
  induction lists with
  | nil => simp
  | cons first rest inductionHypothesis =>
    cases rest with
    | nil => simp
    | cons second rest =>
      rw [List.cons_append, List.cons_append, List.intercalate_cons_cons, ← List.cons_append,
        inductionHypothesis, List.intercalate_cons_cons, if_neg (by simp), if_neg (by simp)]
      simp

/-- What happens in some attempts, with one pause between each two of them. -/
def paced (engine : Engine β) (attempts : List (List Event)) : List Event :=
  List.intercalate [.paused engine.retry.milliseconds] attempts

/-- An attempt after others adds a pause and what happens in it to the journal. -/
theorem journal_of_resumed {trials : List Trial} {u t : Session β} {events : List Event}
    (before : u.journal = s.journal ++ paced engine (trials.map Trial.events))
    (attempt : t.journal = (resumed engine trials.length u).journal ++ events) :
    t.journal = s.journal ++ paced engine (trials.map Trial.events ++ [events]) := by
  rw [paced, intercalate_concat, attempt]
  unfold resumed
  by_cases first : trials = []
  · subst first
    simpa [paced] using before
  · simp [first, before, paced]

/-- Between rejected attempts there is one pause each, and none before them or after them. -/
theorem Rejected.journal {trials : List Trial} {last : Scope} {t : Session β}
    (rejected : Rejected engine step template check scope s trials last t) :
    t.journal = s.journal ++ paced engine (trials.map Trial.events) := by
  induction rejected with
  | nil => simp [paced]
  | snoc _ attempted _ inductionHypothesis =>
    obtain ⟨_, _, _, added⟩ := attempted
    rw [List.map_append]
    exact journal_of_resumed inductionHypothesis added

end

/-- How asking for an answer goes. There are some attempts that are all rejected, each on top of
what the one before it has come to. Then either the next attempt, one that is still allowed, is
accepted and what it has come to is returned; or the rejected attempts are as many as are allowed,
and the fault names their number and why the last of them was rejected; or the next attempt, one
that is still allowed, is interrupted by a fault. In each case the journal has what happens in the
attempts, with one pause between each two of them. -/
theorem generate_ends (engine : Engine β) (step : Step) (template : String) (scope : Scope)
    (s : Session β) :
    let allowed := engine.retry.attempts
    let check := validate engine step
    let ended := result (generate engine step template check scope) s
    ∃ trials last u, Rejected engine step template check scope s trials last u ∧
      ((∃ trial, trials.length < allowed ∧
          Attempted engine step template check last (resumed engine trials.length u) trial ended.2 ∧
          trial.rejection = none ∧ ended.1 = .ok trial.candidate ∧
          ended.2.journal = s.journal ++ paced engine ((trials ++ [trial]).map Trial.events)) ∨
        (∃ trial, trials.length = allowed ∧ trials.getLast? = some trial ∧
          ended.1 = .error (.exhausted step.label allowed trial.rejection) ∧
          ended.2.journal =
            s.journal ++ paced engine (trials.map Trial.events) ++
              [.logged (givingUp step allowed)]) ∨
        (∃ fault events, trials.length < allowed ∧
          Interrupted engine step template check last (resumed engine trials.length u) fault
            ended.2 ∧
          ended.1 = .error fault ∧
          ended.2.journal = s.journal ++ paced engine (trials.map Trial.events ++ [events]))) := by
  intro allowed check ended
  have ends : Ends engine step template check scope s ended.1 ended.2 :=
    ends_of_rejected ((grows_parts engine).validate step) none .nil (by simp) (by simp)
  generalize ended.1 = outcome, ended.2 = t at ends ⊢
  cases ends with
  | @accepted trials trial last u _ rejected fewer attempted verdict =>
    refine ⟨trials, last, u, rejected, .inl ⟨trial, fewer, attempted, verdict, rfl, ?_⟩⟩
    obtain ⟨_, _, _, added⟩ := attempted
    rw [List.map_append]
    exact journal_of_resumed rejected.journal added
  | @exhausted trials trial last u rejected count isLast =>
    refine ⟨trials, last, u, rejected, .inr (.inl ⟨trial, count, isLast, ?_, ?_⟩)⟩
    · rw [count]
    · rw [Session.journal_after, rejected.journal, count]
  | @interrupted trials last u _ fault events rejected fewer interrupted added =>
    exact ⟨trials, last, u, rejected, .inr (.inr ⟨fault, events, fewer, interrupted, rfl,
      journal_of_resumed rejected.journal added⟩)⟩

end PromptTree.Workflow
