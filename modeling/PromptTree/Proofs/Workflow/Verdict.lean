import PromptTree.Proofs.Scope.Merge
import PromptTree.Proofs.Workflow.Questions

/-!
Where a verdict comes from that is left to the backend. Asking for it is a step like any other, run
on the scope that is to be judged: the answers are written over this scope, so the verdict may be
one that the scope held already (`Comes`). Main statement: if a validator without a pattern accepts,
an answer to its question gave the expected verdict, or no answer gave one and the scope held it
(`checkValidator_accepts`). The second way is open (`not_accepted_only_by_answer`).
-/

namespace PromptTree.Workflow

open Run

variable {β : Type} {engine : Engine β}

/-- What a scope holds under a name after some turns, compared with another scope before them: an
answer to a question of this schema gave it, or no answer gave anything and it is what was there. -/
inductive Comes (asked : Value) (turns : List Turn) (name : String) (before after : Scope) :
    Prop where
  | answered {prompt text : String} {answer : Entries} :
    .asked prompt asked (.ok (.map answer)) ∈ turns → Entries.Gives answer name text →
    after.get? name = some text → Comes asked turns name before after
  | kept :
    (∀ prompt schema answer, .asked prompt schema (.ok (.map answer)) ∈ turns →
      Entries.Leaves answer name) →
    after.get? name = before.get? name → Comes asked turns name before after

section

variable {asked : Value} {turns more : List Turn} {name : String} {before between after : Scope}

theorem Comes.trans (first : Comes asked turns name before between)
    (second : Comes asked more name between after) :
    Comes asked (turns ++ more) name before after := by
  cases second with
  | answered isTurn gives holds => exact .answered (List.mem_append_right _ isTurn) gives holds
  | kept leaves same =>
    cases first with
    | answered isTurn gives holds =>
      exact .answered (List.mem_append_left _ isTurn) gives (same.trans holds)
    | kept earlier sameBefore =>
      refine .kept ?_ (same.trans sameBefore)
      intro prompt schema answer isTurn
      rcases List.mem_append.mp isTurn with isTurn | isTurn
      · exact earlier prompt schema answer isTurn
      · exact leaves prompt schema answer isTurn

theorem comes_of_no_question (none : questions turns = 0) (scope : Scope) :
    Comes asked turns name scope scope := by
  refine .kept ?_ rfl
  intro prompt schema answer isTurn
  exact absurd rfl (List.countP_eq_zero.mp none _ isTurn)

theorem comes_of_answer {prompt : String} {answer : Entries}
    (merged : before.merge answer = .ok after) :
    Comes asked [.asked prompt asked (.ok (.map answer))] name before after := by
  rcases Scope.get?_merge merged name with ⟨text, holds, gives⟩ | ⟨same, leaves⟩
  · exact .answered List.mem_cons_self gives holds
  · refine .kept ?_ same
    intro _ _ other isTurn
    cases List.mem_singleton.mp isTurn
    exact leaves

end

section

variable {α : Type} {s t u : Session β}

/-- On the way from one session to the next no question is put. -/
def GoesQuietly (engine : Engine β) (s t : Session β) : Prop :=
  ∃ turns, Goes engine s turns t ∧ questions turns = 0

/-- So goes a stretch that is made of parts without a question. -/
theorem goesQuietly_of_unprompted (engine : Engine β) {stretch : Run β α}
    {outcome : Except Fault α} (made : ∀ {holds}, Unprompted engine holds → holds α stretch)
    (ended : result stretch s = (outcome, t)) : GoesQuietly engine s t := by
  obtain ⟨turns, closes⟩ := made (contained_unprompted engine) s
  have atMost := made (unprompted_asksAtMost engine) s
  rw [ended] at closes atMost
  have counted := closes.goes.asked
  exact ⟨turns, closes.goes, by omega⟩

/-- On the way from one session to the next a question of this schema is answered with a map, and
the turns say what the name comes to hold. -/
def Asked (engine : Engine β) (asked : Value) (name : String) (s t : Session β)
    (before after : Scope) : Prop :=
  ∃ turns prompt answer, Goes engine s turns t ∧ .asked prompt asked (.ok (.map answer)) ∈ turns ∧
    Comes asked turns name before after

section

variable {asked : Value} {name : String} {before between after : Scope}

theorem Asked.trans (first : Asked engine asked name s t before between)
    (second : Asked engine asked name t u between after) :
    Asked engine asked name s u before after := by
  obtain ⟨turns, prompt, answer, goes, isTurn, comes⟩ := first
  obtain ⟨more, _, _, further, _, later⟩ := second
  exact ⟨turns ++ more, prompt, answer, goes.trans further, List.mem_append_left _ isTurn,
    comes.trans later⟩

theorem Asked.preceded (quiet : GoesQuietly engine s t)
    (later : Asked engine asked name t u before after) :
    Asked engine asked name s u before after := by
  obtain ⟨turns, goes, none⟩ := quiet
  obtain ⟨more, prompt, answer, further, isTurn, comes⟩ := later
  exact ⟨turns ++ more, prompt, answer, goes.trans further, List.mem_append_right _ isTurn,
    (comes_of_no_question none before).trans comes⟩

theorem Asked.followed (first : Asked engine asked name s t before after)
    (quiet : GoesQuietly engine t u) : Asked engine asked name s u before after := by
  obtain ⟨earlier, prompt, answer, started, isTurn, comes⟩ := first
  obtain ⟨turns, goes, none⟩ := quiet
  exact ⟨earlier ++ turns, prompt, answer, started.trans goes, List.mem_append_left _ isTurn,
    comes.trans (comes_of_no_question none after)⟩

end

/-! ### The loop -/

variable {step : Step}

theorem asked_of_askOver {prompt : String} {scope : Scope} {answered : Value × Scope}
    (ended : result (askOver engine step prompt scope) s = (.ok answered, t)) (name : String) :
    Asked engine (schema step.generatedVariables) name s t scope answered.2 := by
  obtain ⟨answer, u, asked, written⟩ := result_bind_eq_ok_iff.mp ended
  obtain ⟨reply, taken, isReply⟩ := exists_taken_of_ask asked
  cases reply with
  | error fault => cases isReply
  | ok reply =>
    cases isReply
    cases answer with
    | map entries =>
      have first : Asked engine (schema step.generatedVariables) name s u scope answered.2 :=
        ⟨[] ++ [_], prompt, entries, .turn .start taken, List.mem_cons_self,
          comes_of_answer (taken_of_writeAnswer written).2⟩
      apply first.followed
      exact goesQuietly_of_unprompted engine
        (fun parts => parts.writeAnswer step _ entries scope) written
    | _ => cases written

theorem asked_of_attempt {template : String} {left made : Nat} {scope : Scope} {tried : Attempt}
    (ended : result (attempt engine step template (checkAnswer step) left made scope) s =
      (.ok tried, t)) (name : String) :
    Asked engine (schema step.generatedVariables) name s t scope tried.candidate := by
  obtain ⟨_, _, logged, ended⟩ := result_bind_eq_ok_iff.mp ended
  obtain ⟨prompt, _, resolved, ended⟩ := result_bind_eq_ok_iff.mp ended
  obtain ⟨answered, _, asked, ended⟩ := result_bind_eq_ok_iff.mp ended
  obtain ⟨rejection, _, checked, ended⟩ := result_bind_eq_ok_iff.mp ended
  obtain ⟨_, _, reported, ended⟩ := result_bind_eq_ok_iff.mp ended
  cases ended
  have logged : GoesQuietly engine s _ := goesQuietly_of_unprompted engine
    (fun parts => parts.log .info _ (by decide)) logged
  have resolved : GoesQuietly engine _ _ := goesQuietly_of_unprompted engine
    (fun parts => parts.resolve template scope) resolved
  have checked : GoesQuietly engine _ _ := goesQuietly_of_unprompted engine
    (fun parts => parts.checkAnswer step answered.2) checked
  have reported : GoesQuietly engine _ t := goesQuietly_of_unprompted engine
    (fun parts => parts.logRejection step left prompt answered.1 rejection) reported
  have answer := ((asked_of_askOver asked name).followed checked).followed reported
  exact (answer.preceded resolved).preceded logged

theorem goesQuietly_resumed (engine : Engine β) (made : Nat) (s : Session β) :
    GoesQuietly engine s (resumed engine made s) := by
  unfold resumed
  split
  · exact ⟨[], .start, rfl⟩
  · exact ⟨[], .quiet .start (.paused engine.retry.milliseconds), rfl⟩

/-- If the loop ends with a scope, a question was answered. What a name holds then has come through
all attempts, the rejected ones included, since each is made on top of those before. -/
theorem asked_of_attempts {template : String} {left made : Nat} {scope after : Scope}
    {last : Option Rejection}
    (ended : result (attempts engine step template (checkAnswer step) left made scope last) s =
      (.ok after, t)) (name : String) :
    Asked engine (schema step.generatedVariables) name s t scope after := by
  induction left generalizing made scope last s with
  | zero =>
    obtain ⟨_, _, _, ended⟩ := result_bind_eq_ok_iff.mp ended
    cases ended
  | succ left inductionHypothesis =>
    rw [result_attempts_succ] at ended
    obtain ⟨tried, u, attempted, ended⟩ := result_bind_eq_ok_iff.mp ended
    have first := (asked_of_attempt attempted name).preceded (goesQuietly_resumed engine made s)
    cases verdict : tried.rejection with
    | none =>
      rw [verdict] at ended
      cases ended
      exact first
    | some rejection =>
      rw [verdict] at ended
      exact first.trans (inductionHypothesis ended)

/-! ### Verdicts -/

/-- The schema that the answer to such a question has to follow. -/
def verdictSchema (question : String) : Value :=
  schema (Step.judge question).generatedVariables

theorem usedPrompt_judge (question : String) :
    (Step.judge question).usedPrompt = if question = "" then none else some question := by
  unfold Step.usedPrompt Step.judge
  by_cases empty : question = ""
  · rw [if_pos empty, empty]
    rfl
  · rw [if_neg empty]
    simp [empty]

/-- A verdict that is left to the backend is what a scope holds in the end that begins as the scope
that is judged. An empty question is not put. -/
theorem comes_of_judge {question : String} {scope : Scope} {verdict : Verdict}
    (ended : result (judge engine question scope) s = (.ok verdict, t)) :
    ∃ inherited after w turns,
      result (bindFixed engine (Step.judge question) scope) s = (.ok inherited, w) ∧
      verdict.verdict = (after.get? "answer").getD "" ∧ Goes engine s turns t ∧
      (question ≠ "" → ∃ prompt answer,
        .asked prompt (verdictSchema question) (.ok (.map answer)) ∈ turns) ∧
      Comes (verdictSchema question) turns "answer" inherited after := by
  obtain ⟨after, _, performed, ended⟩ := result_bind_eq_ok_iff.mp ended
  cases ended
  obtain ⟨inherited, w, bound, performed⟩ := result_bind_eq_ok_iff.mp performed
  obtain ⟨_, _, downloaded, performed⟩ := result_bind_eq_ok_iff.mp performed
  cases downloaded
  have quiet : GoesQuietly engine s w := goesQuietly_of_unprompted engine
    (fun parts => parts.bindFixed (Step.judge question) scope) bound
  rw [usedPrompt_judge] at performed
  by_cases empty : question = ""
  · rw [if_pos empty] at performed
    cases performed
    obtain ⟨turns, goes, none⟩ := quiet
    exact ⟨after, after, _, turns, bound, rfl, goes, absurd empty, comes_of_no_question none after⟩
  · rw [if_neg empty] at performed
    have asked := (asked_of_attempts performed "answer").preceded quiet
    obtain ⟨turns, prompt, answer, goes, isTurn, comes⟩ := asked
    exact ⟨inherited, after, w, turns, bound, rfl, goes, fun _ => ⟨prompt, answer, isTurn⟩, comes⟩

end

/-- If a validator accepts that leaves the verdict to the backend, then its text, unless it is empty
when it is resolved, was put to the backend as a question, and the expected verdict comes from an
answer to it, or no answer gave a verdict at all and the scope that was judged held the expected
one. -/
theorem checkValidator_accepts (engine : Engine β) (v : Validator) (scope : Scope)
    {s t : Session β} (judged : v.byPattern = false)
    (accepted : result (checkValidator engine v scope) s = (.ok none, t)) :
    ∃ text inherited u w turns,
      result (resolve engine v.text scope) s = (.ok text, u) ∧
      result (bindFixed engine (Step.judge text) scope) u = (.ok inherited, w) ∧
      Goes engine s turns t ∧
      (text ≠ "" → ∃ prompt answer,
        .asked prompt (verdictSchema text) (.ok (.map answer)) ∈ turns) ∧
      ((∃ prompt answer, .asked prompt (verdictSchema text) (.ok (.map answer)) ∈ turns ∧
          Entries.Gives answer "answer" v.expect) ∨
        ((inherited.get? "answer").getD "" = v.expect ∧
          ∀ prompt schema answer, .asked prompt schema (.ok (.map answer)) ∈ turns →
            Entries.Leaves answer "answer")) := by
  obtain ⟨text, u, resolved, ended⟩ := result_bind_eq_ok_iff.mp accepted
  have noPattern : usedPattern v.pattern = none := by simpa [Validator.byPattern] using judged
  rw [noPattern] at ended
  obtain ⟨verdict, x, given, ended⟩ := result_bind_eq_ok_iff.mp ended
  dsimp only at ended
  have expected : verdict.verdict = v.expect ∧ x = t := by
    by_cases expected : verdict.verdict = v.expect
    · rw [if_pos expected] at ended
      cases ended
      exact ⟨expected, rfl⟩
    · rw [if_neg expected] at ended
      cases ended
  obtain ⟨expected, rfl⟩ := expected
  obtain ⟨inherited, after, w, turns, bound, isVerdict, goes, put, comes⟩ := comes_of_judge given
  obtain ⟨before, goesResolved, none⟩ : GoesQuietly engine s u := goesQuietly_of_unprompted engine
    (fun parts => parts.resolve v.text scope) resolved
  have comes := (comes_of_no_question none inherited).trans comes
  refine ⟨text, inherited, u, w, before ++ turns, resolved, bound, goesResolved.trans goes, ?_, ?_⟩
  · intro notEmpty
    obtain ⟨prompt, answer, isTurn⟩ := put notEmpty
    exact ⟨prompt, answer, List.mem_append_right _ isTurn⟩
  · cases comes with
    | @answered prompt given answer isTurn gives holds =>
      rw [holds] at isVerdict
      have same : given = v.expect := isVerdict.symm.trans expected
      exact .inl ⟨prompt, answer, isTurn, same ▸ gives⟩
    | kept leaves same => exact .inr ⟨same ▸ isVerdict.symm.trans expected, leaves⟩

/-- A validator that leaves it to the backend whether a text is good. -/
def goodValidator (text : String) : Validator := ⟨text, none, "yes"⟩

theorem checkValidator_accepts_short :
    (goodValidator "Is it short?").byPattern = false ∧
      ∃ t turns prompt answer,
        result (checkValidator (verdictEngine "yes") (goodValidator "Is it short?") .empty)
          (.start ()) = (.ok none, t) ∧
        Goes (verdictEngine "yes") (.start ()) turns t ∧
        .asked prompt (verdictSchema "Is it short?") (.ok (.map answer)) ∈ turns ∧
        Entries.Gives answer "answer" "yes" := by
  have judged : (goodValidator "Is it short?").byPattern = false := by decide
  have accepts : (result (checkValidator (verdictEngine "yes") (goodValidator "Is it short?")
      .empty) (.start ())).1 = .ok none := by decide +kernel
  have asText : (result (resolve (verdictEngine "yes") "Is it short?" .empty) (.start ())).1 =
      .ok "Is it short?" := by decide +kernel
  obtain ⟨t, accepted⟩ : ∃ t, result (checkValidator (verdictEngine "yes")
      (goodValidator "Is it short?") .empty) (.start ()) = (.ok none, t) := ⟨_, Prod.ext accepts rfl⟩
  obtain ⟨text, inherited, u, w, turns, resolved, bound, goes, _, given | ⟨held, _⟩⟩ :=
    checkValidator_accepts (verdictEngine "yes") (goodValidator "Is it short?") .empty judged accepted
  · have resolved : result (resolve (verdictEngine "yes") "Is it short?" .empty) (.start ()) =
        (.ok text, u) := resolved
    rw [resolved] at asText
    cases asText
    obtain ⟨prompt, answer, isTurn, gives⟩ := given
    exact ⟨judged, t, turns, prompt, answer, accepted, goes, isTurn, gives⟩
  · cases bound
    exact absurd held (by decide)

/-- A backend that denies everything is not asked about an empty note, and then the verdict is
accepted that the scope itself holds. -/
theorem not_accepted_only_by_answer :
    ¬ ∀ (engine : Engine Unit) (v : Validator) (scope : Scope) (s t : Session Unit),
      v.byPattern = false → result (checkValidator engine v scope) s = (.ok none, t) →
      ∃ turns prompt schema answer, Goes engine s turns t ∧
        .asked prompt schema (.ok (.map answer)) ∈ turns ∧
        Entries.Gives answer "answer" v.expect := by
  intro claimed
  have ended : (result (checkValidator (verdictEngine "no") (goodValidator "${note}")
      (.ofPairs [("note", ""), ("answer", "yes")])) (.start ())).1 = .ok none ∧
      asked (result (checkValidator (verdictEngine "no") (goodValidator "${note}")
        (.ofPairs [("note", ""), ("answer", "yes")])) (.start ())).2 = 0 := by
    decide +kernel
  obtain ⟨turns, prompt, schema, answer, goes, isTurn, _⟩ :=
    claimed (verdictEngine "no") (goodValidator "${note}") _ _ _ (by decide)
      (Prod.ext ended.1 rfl)
  have counted := goes.asked
  rw [ended.2] at counted
  have none : questions turns = 0 := by
    change 0 = 0 + questions turns at counted
    omega
  exact absurd rfl (List.countP_eq_zero.mp none _ isTurn)

end PromptTree.Workflow
