import PromptTree.Proofs.Workflow.Verdict

/-!
The order in which an answer is checked: its variables, then the validators with a pattern, then those
that leave the verdict to the backend. `Decides` says how a validator comes to a verdict, `Accepted`
that all of some validators come to the verdicts that they expect, `Refused` how the first that does
not ends the check. Main statement: no question is put unless everything that needs none has been
accepted (`validate_in_order`).
-/

namespace PromptTree.Workflow

open Run

variable {β : Type}

/-! ### One validator -/

def verdictOfSearch (pattern : String) (found : Bool) : Verdict :=
  ⟨if found then "yes" else "no", if found then "matched" else "not matched", s!"pattern {pattern}"⟩

section

variable (engine : Engine β) (scope : Scope) (v : Validator) (s : Session β)

/-- A validator comes to a verdict about its text: by a search for its pattern, or by the verdict of
the backend. -/
inductive Decides : Verdict → String → Session β → Prop where
  | searched {text pattern : String} {regex : Regex} {t : Session β} :
    result (resolve engine v.text scope) s = (.ok text, t) →
    usedPattern v.pattern = some pattern → Regex.read {} pattern = .ok regex →
    Decides (verdictOfSearch pattern (regex.foundIn text)) text t
  | judged {text : String} {verdict : Verdict} {t u : Session β} :
    result (resolve engine v.text scope) s = (.ok text, t) → usedPattern v.pattern = none →
    result (judge engine text scope) t = (.ok verdict, u) → Decides verdict text u

/-- A validator comes to no verdict: its text cannot be resolved, its pattern is none, or the backend
gives no verdict. -/
inductive Undecided : Fault → Session β → Prop where
  | unresolved {fault : Fault} {t : Session β} :
    result (resolve engine v.text scope) s = (.error fault, t) → Undecided fault t
  | unreadable {text pattern : String} {fault : Regex.Fault} {t : Session β} :
    result (resolve engine v.text scope) s = (.ok text, t) →
    usedPattern v.pattern = some pattern → Regex.read {} pattern = .error fault →
    Undecided (.pattern fault) t
  | unjudged {text : String} {fault : Fault} {t u : Session β} :
    result (resolve engine v.text scope) s = (.ok text, t) → usedPattern v.pattern = none →
    result (judge engine text scope) t = (.error fault, u) → Undecided fault u

end

def rejectionFor (v : Validator) (verdict : Verdict) (text : String) : Option Rejection :=
  if verdict.verdict = v.expect then none
  else some (.verdict v.expect verdict.verdict verdict.explanation verdict.source text)

section

variable {engine : Engine β} {scope : Scope} {v : Validator} {vs : List Validator}
  {s t u : Session β}

theorem searchVerdict_of_read {pattern text : String} {regex : Regex}
    (isRegex : Regex.read {} pattern = .ok regex) :
    searchVerdict pattern text = .ok (verdictOfSearch pattern (regex.foundIn text)) := by
  unfold searchVerdict isFound
  rw [isRegex]
  rfl

theorem result_compared (v : Validator) (verdict : Verdict) (text : String) (s : Session β) :
    result (if verdict.verdict = v.expect then return none
      else return some (.verdict v.expect verdict.verdict verdict.explanation verdict.source text) :
        Run β (Option Rejection)) s = (.ok (rejectionFor v verdict text), s) := by
  unfold rejectionFor
  split <;> rfl

theorem Decides.result_eq {verdict : Verdict} {text : String}
    (decides : Decides engine scope v s verdict text t) :
    result (checkValidator engine v scope) s = (.ok (rejectionFor v verdict text), t) := by
  unfold checkValidator
  cases decides with
  | @searched _ pattern regex _ resolved isPattern isRegex =>
    have found : result (Run.ofExcept (searchVerdict pattern text)) t =
        (.ok (verdictOfSearch pattern (regex.foundIn text)), t) := by
      rw [searchVerdict_of_read isRegex]
      rfl
    rw [result_bind_of_ok resolved, isPattern]
    dsimp only
    rw [result_bind_of_ok found]
    exact result_compared v _ text t
  | judged resolved noPattern given =>
    rw [result_bind_of_ok resolved, noPattern]
    dsimp only
    rw [result_bind_of_ok given]
    exact result_compared v verdict text t

theorem Undecided.result_eq {fault : Fault} (undecided : Undecided engine scope v s fault t) :
    result (checkValidator engine v scope) s = (.error fault, t) := by
  unfold checkValidator
  cases undecided with
  | unresolved failed => exact result_bind_of_error failed _
  | unreadable resolved isPattern failed =>
    rw [result_bind_of_ok resolved, isPattern]
    dsimp only
    unfold searchVerdict isFound
    rw [failed]
    rfl
  | unjudged resolved noPattern failed =>
    rw [result_bind_of_ok resolved, noPattern]
    exact result_bind_of_error failed _

theorem decides_or_undecided (engine : Engine β) (scope : Scope) (v : Validator) (s : Session β) :
    (∃ verdict text t, Decides engine scope v s verdict text t) ∨
      ∃ fault t, Undecided engine scope v s fault t := by
  rcases resolution : result (resolve engine v.text scope) s with ⟨fault | text, t⟩
  · exact .inr ⟨fault, t, .unresolved resolution⟩
  cases isPattern : usedPattern v.pattern with
  | some pattern =>
    cases isRegex : Regex.read {} pattern with
    | ok regex => exact .inl ⟨_, text, t, .searched resolution isPattern isRegex⟩
    | error fault => exact .inr ⟨_, t, .unreadable resolution isPattern isRegex⟩
  | none =>
    rcases given : result (judge engine text scope) t with ⟨fault | verdict, u⟩
    · exact .inr ⟨fault, u, .unjudged resolution isPattern given⟩
    · exact .inl ⟨verdict, text, u, .judged resolution isPattern given⟩

end

/-! ### One validator after the other -/

section

variable (engine : Engine β) (scope : Scope)

/-- All of some validators come to the verdicts that they expect, one after the other. -/
inductive Accepted : List Validator → Session β → Session β → Prop where
  | nil {s : Session β} : Accepted [] s s
  | cons {v : Validator} {vs : List Validator} {verdict : Verdict} {text : String}
      {s t u : Session β} :
    Decides engine scope v s verdict text t → verdict.verdict = v.expect → Accepted vs t u →
    Accepted (v :: vs) s u

/-- The first validator that does not come to the verdict that it expects ends the check; those after
it are not run. -/
inductive Refused (s : Session β) :
    List Validator → Except Fault (Option Rejection) → Session β → Prop where
  | rejected {before after : List Validator} {v : Validator} {verdict : Verdict} {text : String}
      {t u : Session β} :
    Accepted engine scope before s t → Decides engine scope v t verdict text u →
    verdict.verdict ≠ v.expect →
    Refused s (before ++ v :: after) (.ok (some
      (.verdict v.expect verdict.verdict verdict.explanation verdict.source text))) u
  | undecided {before after : List Validator} {v : Validator} {fault : Fault} {t u : Session β} :
    Accepted engine scope before s t → Undecided engine scope v t fault u →
    Refused s (before ++ v :: after) (.error fault) u

end

section

variable {engine : Engine β} {scope : Scope} {v : Validator} {vs before others : List Validator}
  {s t u : Session β} {outcome : Except Fault (Option Rejection)}

theorem result_checkValidators_of_accepted (accepted : Accepted engine scope before s t)
    (others : List Validator) :
    result (checkValidators engine scope (before ++ others)) s =
      result (checkValidators engine scope others) t := by
  induction accepted with
  | nil => rfl
  | cons decides expected _ inductionHypothesis =>
    have fine := decides.result_eq
    unfold rejectionFor at fine
    rw [if_pos expected] at fine
    exact (result_bind_of_ok fine _).trans inductionHypothesis

theorem Accepted.result_eq (accepted : Accepted engine scope vs s t) :
    result (checkValidators engine scope vs) s = (.ok none, t) := by
  have ended := result_checkValidators_of_accepted accepted []
  rw [List.append_nil] at ended
  exact ended

theorem Refused.result_eq (refused : Refused engine scope s vs outcome t) :
    result (checkValidators engine scope vs) s = (outcome, t) := by
  cases refused with
  | rejected accepted decides unexpected =>
    have rejects := decides.result_eq
    unfold rejectionFor at rejects
    rw [if_neg unexpected] at rejects
    rw [result_checkValidators_of_accepted accepted]
    exact result_bind_of_ok rejects _
  | undecided accepted undecided =>
    rw [result_checkValidators_of_accepted accepted]
    exact result_bind_of_error undecided.result_eq _

theorem Refused.first {verdict : Verdict} {text : String}
    (decides : Decides engine scope v s verdict text t) (unexpected : verdict.verdict ≠ v.expect) :
    Refused engine scope s (v :: vs) (.ok (some
      (.verdict v.expect verdict.verdict verdict.explanation verdict.source text))) t := by
  rw [← List.nil_append (v :: vs)]
  exact .rejected .nil decides unexpected

theorem Refused.atOnce {fault : Fault} (undecided : Undecided engine scope v s fault t) :
    Refused engine scope s (v :: vs) (.error fault) t := by
  rw [← List.nil_append (v :: vs)]
  exact .undecided .nil undecided

theorem Refused.cons {verdict : Verdict} {text : String}
    (decides : Decides engine scope v s verdict text t) (expected : verdict.verdict = v.expect)
    (refused : Refused engine scope t vs outcome u) :
    Refused engine scope s (v :: vs) outcome u := by
  cases refused with
  | rejected accepted later unexpected =>
    rw [← List.cons_append]
    exact .rejected (.cons decides expected accepted) later unexpected
  | undecided accepted later =>
    rw [← List.cons_append]
    exact .undecided (.cons decides expected accepted) later

theorem accepted_or_refused (engine : Engine β) (scope : Scope) (vs : List Validator)
    (s : Session β) :
    (∃ t, Accepted engine scope vs s t) ∨ ∃ outcome t, Refused engine scope s vs outcome t := by
  induction vs generalizing s with
  | nil => exact .inl ⟨s, .nil⟩
  | cons v vs inductionHypothesis =>
    rcases decides_or_undecided engine scope v s with ⟨verdict, text, t, decides⟩ | ⟨fault, t, undecided⟩
    · by_cases expected : verdict.verdict = v.expect
      · rcases inductionHypothesis t with ⟨u, accepted⟩ | ⟨outcome, u, refused⟩
        · exact .inl ⟨u, .cons decides expected accepted⟩
        · exact .inr ⟨outcome, u, .cons decides expected refused⟩
      · exact .inr ⟨_, t, .first decides expected⟩
    · exact .inr ⟨_, t, .atOnce undecided⟩

theorem Accepted.append (first : Accepted engine scope before s t)
    (second : Accepted engine scope others t u) : Accepted engine scope (before ++ others) s u := by
  induction first with
  | nil => exact second
  | cons decides expected _ inductionHypothesis =>
    exact .cons decides expected (inductionHypothesis second)

theorem Refused.append (first : Accepted engine scope before s t)
    (second : Refused engine scope t others outcome u) :
    Refused engine scope s (before ++ others) outcome u := by
  induction first with
  | nil => exact second
  | cons decides expected _ inductionHypothesis =>
    exact .cons decides expected (inductionHypothesis second)

theorem Refused.extend (refused : Refused engine scope s vs outcome t) (others : List Validator) :
    Refused engine scope s (vs ++ others) outcome t := by
  cases refused with
  | rejected accepted decides unexpected =>
    rw [List.append_assoc, List.cons_append]
    exact .rejected accepted decides unexpected
  | undecided accepted undecided =>
    rw [List.append_assoc, List.cons_append]
    exact .undecided accepted undecided

theorem Refused.outcome_ne (refused : Refused engine scope s vs outcome t) : outcome ≠ .ok none := by
  cases refused <;> simp

theorem Refused.name?_eq_none {rejection : Rejection}
    (refused : Refused engine scope s vs (.ok (some rejection)) t) : rejection.name? = none := by
  cases refused
  rfl

/-! ### Checks without a question -/

theorem GoesQuietly.asked_eq (quiet : GoesQuietly engine s t) : asked t = asked s := by
  obtain ⟨turns, goes, none⟩ := quiet
  rw [goes.asked, none, Nat.add_zero]

theorem goesQuietly_of_resolved {text : String} {resolved : Except Fault String}
    (ended : result (resolve engine text scope) s = (resolved, t)) : GoesQuietly engine s t :=
  goesQuietly_of_unprompted engine (fun parts => parts.resolve text scope) ended

theorem Decides.asked_eq {verdict : Verdict} {text : String} (byPattern : v.byPattern = true)
    (decides : Decides engine scope v s verdict text t) : asked t = asked s := by
  cases decides with
  | searched resolved _ _ => exact (goesQuietly_of_resolved resolved).asked_eq
  | judged _ noPattern _ => simp [Validator.byPattern, noPattern] at byPattern

theorem Undecided.asked_eq {fault : Fault} (byPattern : v.byPattern = true)
    (undecided : Undecided engine scope v s fault t) : asked t = asked s := by
  cases undecided with
  | unresolved failed => exact (goesQuietly_of_resolved failed).asked_eq
  | unreadable resolved _ _ => exact (goesQuietly_of_resolved resolved).asked_eq
  | unjudged _ noPattern _ => simp [Validator.byPattern, noPattern] at byPattern

theorem Accepted.asked_eq (byPattern : ∀ v ∈ vs, v.byPattern = true)
    (accepted : Accepted engine scope vs s t) : asked t = asked s := by
  induction accepted with
  | nil => rfl
  | cons decides _ _ inductionHypothesis =>
    rw [List.forall_mem_cons] at byPattern
    exact (inductionHypothesis byPattern.2).trans (decides.asked_eq byPattern.1)

theorem Refused.asked_eq (byPattern : ∀ v ∈ vs, v.byPattern = true)
    (refused : Refused engine scope s vs outcome t) : asked t = asked s := by
  cases refused with
  | rejected accepted decides _ =>
    rw [List.forall_mem_append, List.forall_mem_cons] at byPattern
    exact (decides.asked_eq byPattern.2.1).trans (accepted.asked_eq byPattern.1)
  | undecided accepted undecided =>
    rw [List.forall_mem_append, List.forall_mem_cons] at byPattern
    exact (undecided.asked_eq byPattern.2.1).trans (accepted.asked_eq byPattern.1)

end

/-! ### All checks -/

/-- The check of a variable rejects in the name of the variable. -/
theorem name?_of_checkVariable {values : Entries} {g : Generated} {rejection : Rejection}
    (checked : checkVariable values g = .ok (some rejection)) :
    rejection.name? = some g.name := by
  unfold checkVariable at checked
  dsimp only at checked
  split at checked
  · split at checked <;> cases checked
    rfl
  · split at checked
    all_goals
      obtain ⟨found, _, compared⟩ := except_bind_eq_ok_iff.mp checked
      split at compared <;> try split at compared
    all_goals cases compared
    all_goals rfl

theorem name?_of_checkGenerated {values : Entries} {gs : List Generated} {rejection : Rejection}
    (checked : checkGenerated values gs = .ok (some rejection)) :
    ∃ g ∈ gs, rejection.name? = some g.name := by
  induction gs with
  | nil => cases checked
  | cons g gs inductionHypothesis =>
    obtain ⟨first, isFirst, rest⟩ := except_bind_eq_ok_iff.mp checked
    cases first with
    | none =>
      obtain ⟨other, isOther, named⟩ := inductionHypothesis rest
      exact ⟨other, List.mem_cons_of_mem _ isOther, named⟩
    | some first =>
      cases rest
      exact ⟨g, List.mem_cons_self, name?_of_checkVariable isFirst⟩

section

variable (engine : Engine β) (step : Step) (scope : Scope) (s : Session β)

def variablesChecked (step : Step) (scope : Scope) : Except Fault (Option Rejection) :=
  checkGenerated scope.toValues step.generatedVariables

/-- The ways in which the check of an answer ends. -/
inductive Checks : Except Fault (Option Rejection) → Session β → Prop where
  | unchecked {fault : Fault} : variablesChecked step scope = .error fault → Checks (.error fault) s
  | rejected {rejection : Rejection} :
    variablesChecked step scope = .ok (some rejection) → Checks (.ok (some rejection)) s
  | searched {outcome : Except Fault (Option Rejection)} {t : Session β} :
    variablesChecked step scope = .ok none →
    Refused engine scope s (step.validators.filter (·.byPattern)) outcome t → Checks outcome t
  | judged {outcome : Except Fault (Option Rejection)} {t u : Session β} :
    variablesChecked step scope = .ok none →
    Accepted engine scope (step.validators.filter (·.byPattern)) s t →
    Refused engine scope t (step.validators.filter (!·.byPattern)) outcome u → Checks outcome u
  | accepted {t u : Session β} :
    variablesChecked step scope = .ok none →
    Accepted engine scope (step.validators.filter (·.byPattern)) s t →
    Accepted engine scope (step.validators.filter (!·.byPattern)) t u → Checks (.ok none) u

end

section

variable {engine : Engine β} {step : Step} {scope : Scope} {s t : Session β}
  {outcome : Except Fault (Option Rejection)}

theorem result_validate (engine : Engine β) (step : Step) (scope : Scope) (s : Session β) :
    result (validate engine step scope) s =
      match variablesChecked step scope with
      | .error fault => (.error fault, s)
      | .ok (some rejection) => (.ok (some rejection), s)
      | .ok none => result (checkValidators engine scope step.orderedValidators) s := by
  unfold validate checkAnswer variablesChecked
  rw [result_bind]
  rcases checkGenerated scope.toValues step.generatedVariables with fault | _ | rejection <;> rfl

theorem validate_checks (engine : Engine β) (step : Step) (scope : Scope) (s : Session β) :
    Checks engine step scope s (result (validate engine step scope) s).1
      (result (validate engine step scope) s).2 := by
  rw [result_validate]
  rcases checked : variablesChecked step scope with fault | _ | rejection
  · exact .unchecked checked
  · dsimp only
    unfold Step.orderedValidators
    rcases accepted_or_refused engine scope (step.validators.filter (·.byPattern)) s with
      ⟨t, searched⟩ | ⟨outcome, t, refused⟩
    · rw [result_checkValidators_of_accepted searched]
      rcases accepted_or_refused engine scope (step.validators.filter (!·.byPattern)) t with
        ⟨u, judged⟩ | ⟨outcome, u, refused⟩
      · rw [judged.result_eq]
        exact .accepted checked searched judged
      · rw [refused.result_eq]
        exact .judged checked searched refused
    · rw [(refused.extend _).result_eq]
      exact .searched checked refused
  · exact .rejected checked

end

/-- How an answer is checked. Either no question is put; or the variables are in order, all validators
with a pattern have come to the verdicts that they expect before any question, wherever they are
declared, and the others are run after that, in the order in which they are declared, up to the first
that does not come to the verdict that it expects. The answer is accepted if and only if the variables
are in order and all validators come to the verdicts that they expect. A rejection is about a
variable, or it is about the first validator in this order that comes to another verdict. -/
theorem validate_in_order (engine : Engine β) (step : Step) (scope : Scope) (s : Session β) :
    let searching := step.validators.filter (·.byPattern)
    let judged := step.validators.filter (!·.byPattern)
    let checked := variablesChecked step scope
    let ended := result (validate engine step scope) s
    (asked ended.2 = asked s ∨
      checked = .ok none ∧ ∃ t, Accepted engine scope searching s t ∧ asked t = asked s ∧
        (Accepted engine scope judged t ended.2 ∧ ended.1 = .ok none ∨
          Refused engine scope t judged ended.1 ended.2)) ∧
    (ended.1 = .ok none ↔
      checked = .ok none ∧ ∃ t, Accepted engine scope searching s t ∧
        Accepted engine scope judged t ended.2) ∧
    ∀ rejection, ended.1 = .ok (some rejection) ↔
      rejection.name?.isSome = true ∧ checked = .ok (some rejection) ∨
      rejection.name? = none ∧ checked = .ok none ∧
        Refused engine scope s (searching ++ judged) (.ok (some rejection)) ended.2 := by
  intro searching judged checked ended
  have byPattern : ∀ v ∈ searching, v.byPattern = true := fun v isOne => (List.mem_filter.mp isOne).2
  have checks : Checks engine step scope s ended.1 ended.2 := validate_checks engine step scope s
  have ofValidators : checked = .ok none →
      ended = result (checkValidators engine scope (searching ++ judged)) s := by
    intro isChecked
    have isChecked : variablesChecked step scope = .ok none := isChecked
    change result (validate engine step scope) s = _
    rw [result_validate, isChecked]
    rfl
  refine ⟨?_, ⟨?_, ?_⟩, fun rejection => ⟨?_, ?_⟩⟩
  · generalize ended.1 = outcome, ended.2 = t at checks
    cases checks with
    | unchecked _ => exact .inl rfl
    | rejected _ => exact .inl rfl
    | searched _ refused => exact .inl (refused.asked_eq byPattern)
    | judged isChecked searched refused =>
      exact .inr ⟨isChecked, _, searched, searched.asked_eq byPattern, .inr refused⟩
    | accepted isChecked searched accepted =>
      exact .inr ⟨isChecked, _, searched, searched.asked_eq byPattern, .inl ⟨accepted, rfl⟩⟩
  · intro isAccepted
    rw [isAccepted] at checks
    generalize ended.2 = t at checks
    cases checks with
    | searched _ refused => exact absurd rfl refused.outcome_ne
    | judged _ _ refused => exact absurd rfl refused.outcome_ne
    | accepted isChecked searched accepted => exact ⟨isChecked, _, searched, accepted⟩
  · rintro ⟨isChecked, t, searched, accepted⟩
    rw [ofValidators isChecked, (searched.append accepted).result_eq]
  · intro isRejected
    rw [isRejected] at checks
    generalize ended.2 = t at checks
    cases checks with
    | rejected isChecked =>
      obtain ⟨g, _, named⟩ := name?_of_checkGenerated isChecked
      exact .inl ⟨by rw [named]; rfl, isChecked⟩
    | searched isChecked refused =>
      exact .inr ⟨refused.name?_eq_none, isChecked, refused.extend _⟩
    | judged isChecked searched refused =>
      exact .inr ⟨refused.name?_eq_none, isChecked, .append searched refused⟩
  · rintro (⟨_, isChecked⟩ | ⟨_, isChecked, refused⟩)
    · have isChecked : variablesChecked step scope = .ok (some rejection) := isChecked
      change (result (validate engine step scope) s).1 = _
      rw [result_validate, isChecked]
    · rw [ofValidators isChecked, refused.result_eq]

end PromptTree.Workflow
