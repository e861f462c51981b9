import PromptTree.Proofs.Template.Dependence

/-!
Resolving what has been resolved. A resolution ends with a pass that leaves its text as it is; the
captures of the passes before are in force then, but not when the text is resolved again. Main
statements: resolving again may come to something else (`not_resolve_again`); it comes to the same
text if that last pass draws nothing and no name that it reads has been given another text by a
capture (`resolve_again`).
-/

namespace PromptTree.Template

variable {β : Type} {sources : Sources β}

/-! ### What an evaluation leaves as it was -/

def Keeps {α : Type} (actions : List Action) (r : Resolution β)
    (ended : Except Fault α × Resolution β) : Prop :=
  ∀ name ∉ Action.bound actions, ended.2.bindings.get? name = r.bindings.get? name

section

variable {α γ : Type} {r : Resolution β}

theorem Keeps.of_bindings {actions : List Action} {ended : Except Fault α × Resolution β}
    (same : ended.2.bindings = r.bindings) : Keeps actions r ended := by
  intro name _
  rw [same]

theorem Keeps.bind {stretch : Resolving β α} {next : α → Resolving β γ}
    {actions later : List Action} (first : Keeps actions r (result stretch r))
    (second : ∀ a t, result stretch r = (.ok a, t) → Keeps later t (result (next a) t)) :
    Keeps (actions ++ later) r (result (stretch >>= next) r) := by
  intro name notBound
  rw [Action.bound_append, List.mem_append, not_or] at notBound
  have kept := first name notBound.1
  rw [result_bind]
  rcases ended : result stretch r with ⟨fault | a, t⟩
  · rw [ended] at kept
    exact kept
  · rw [ended] at kept
    rw [← kept]
    exact second a t ended name notBound.2

theorem keeps_bindName (name value : List Char) :
    Keeps [.bind (.ofList name)] r (result (Resolving.bindName name value) r) := by
  intro other notBound
  change (r.bindings.write _ _).get? other = _
  rw [Scope.get?_write, if_neg]
  rintro rfl
  exact notBound List.mem_cons_self

theorem after_randomChars (charset : List Char) (count : Nat) :
    ∃ source, (result (Resolving.randomChars sources charset count) r).2 = { r with source } := by
  induction count generalizing r with
  | zero => exact ⟨r.source, rfl⟩
  | succ count inductionHypothesis =>
    let after := (sources.choose charset.length r.source).2
    obtain ⟨source, same⟩ := inductionHypothesis (r := { r with source := after })
    refine ⟨source, ?_⟩
    rw [Resolving.randomChars, result_bind_of_ok (result_get r)]
    dsimp only
    rw [result_bind_of_ok (result_set r _), result_bind]
    rcases ended : result (Resolving.randomChars sources charset count) { r with source := after }
      with ⟨fault | chars, t⟩ <;> rw [ended] at same <;> exact same

theorem keeps_perform (raw : List Char) (command : Command) :
    Keeps command.actions r (result (Resolving.perform sources raw command) r) := by
  cases command with
  | camel name => exact .of_bindings rfl
  | tee name value => exact keeps_bindName name value
  | date pattern expression =>
    apply Keeps.of_bindings
    unfold Resolving.perform
    dsimp only
    rw [result_bind_of_ok (result_now r)]
    split <;> rfl
  | random length charset =>
    apply Keeps.of_bindings
    unfold Resolving.perform
    dsimp only
    split
    · obtain ⟨source, same⟩ := after_randomChars (r := r) charset _
      rw [same]
    · rfl
  | lookup name =>
    apply Keeps.of_bindings
    unfold Resolving.perform
    dsimp only
    rw [result_bind_of_ok (result_lookup name r)]
    cases r.bindings.get? (.ofList name) with
    | some value => rfl
    | none =>
      obtain ⟨t, reported, sameBindings⟩ := result_report name raw r
      dsimp only [Option.map_none]
      rw [result_bind_of_ok reported]
      exact sameBindings

end

mutual

theorem keeps_eval : (p : Piece) → ∀ r : Resolution β,
    Keeps (p.actions sources r) r (result (p.eval sources) r)
  | .char _, _ => .of_bindings rfl
  | .reference body capture, r => by
    unfold Piece.actions Piece.eval
    by_cases marked : (Piece.rawAll body).head? = some '>'
    · rw [if_pos marked, if_pos marked]
      exact .of_bindings rfl
    · rw [if_neg marked, if_neg marked]
      apply Keeps.bind (keeps_evalAll body r)
      intro evaluated t ended
      rw [ended]
      apply Keeps.bind (keeps_perform _ _)
      intro value u _
      cases capture with
      | none => exact .of_bindings rfl
      | some name => exact keeps_bindName name value
termination_by structural p => p

theorem keeps_evalAll : (ps : List Piece) → ∀ r : Resolution β,
    Keeps (Piece.actionsAll sources ps r) r (result (Piece.evalAll sources ps) r)
  | [], _ => .of_bindings rfl
  | p :: ps, r => by
    unfold Piece.actionsAll Piece.evalAll
    apply Keeps.bind (keeps_eval p r)
    intro value t ended
    rw [ended]
    dsimp only
    rw [← List.append_nil (Piece.actionsAll sources ps t)]
    apply Keeps.bind (keeps_evalAll ps t)
    intro others u _
    exact .of_bindings rfl
termination_by structural ps => ps

end

theorem keeps_pass (text : List Char) (r : Resolution β) :
    Keeps (passActions sources text r) r (result (pass sources text) r) :=
  keeps_evalAll (Piece.read text) r

/-! ### The last pass -/

/-- What the passes do before the one that leaves the text as it is, and the state in which that one
begins. -/
def settling (sources : Sources β) :
    (passes : Nat) → List Char → Resolution β → Option (List Action × Resolution β)
  | 0, _, _ => none
  | passes + 1, text, r =>
    match result (pass sources text) r with
    | (.error _, _) => none
    | (.ok updated, s) =>
      if updated = text then some ([], r)
      else
        (settling sources passes updated s).map fun (later, last) =>
          (passActions sources text r ++ later, last)

theorem settling_of_settle {passes : Nat} {text settled : List Char} {r s : Resolution β}
    (ended : result (settle sources passes text) r = (.ok (some settled), s)) :
    ∃ earlier last, settling sources passes text r = some (earlier, last) ∧
      result (pass sources settled) last = (.ok settled, s) ∧
      ∀ name ∉ Action.bound earlier, last.bindings.get? name = r.bindings.get? name := by
  induction passes generalizing text r with
  | zero => cases ended
  | succ passes inductionHypothesis =>
    obtain ⟨updated, t, passed, ended⟩ := result_bind_eq_ok_iff.mp ended
    unfold settling
    rw [passed]
    dsimp only
    by_cases unchanged : updated = text
    · rw [if_pos unchanged] at ended ⊢
      cases ended
      exact ⟨[], r, rfl, unchanged ▸ passed, fun _ _ => rfl⟩
    · rw [if_neg unchanged] at ended ⊢
      obtain ⟨earlier, last, found, lastPassed, kept⟩ := inductionHypothesis ended
      refine ⟨passActions sources text r ++ earlier, last, by rw [found]; rfl, lastPassed, ?_⟩
      intro name notBound
      rw [Action.bound_append, List.mem_append, not_or] at notBound
      have keptByPass := keeps_pass text r name notBound.1
      rw [passed] at keptByPass
      rw [kept name notBound.2, keptByPass]

/-- A text that a pass leaves as it is settles at once in every scope that has the same texts for the
names that the pass reads before it binds them, if the pass draws nothing. -/
theorem resolve_of_unchanged {text : String} {last after : Resolution β}
    (unchanged : result (pass sources text.toList) last = (.ok text.toList, after))
    (undrawn : .draw ∉ passActions sources text.toList last) {scope : Scope}
    (agree : ∀ name ∈ Action.inputs (passActions sources text.toList last),
      last.bindings.get? name = scope.get? name) {passes : Int} (positive : 0 < passes) (b : β) :
    (resolve sources passes text scope b).outcome = .ok text := by
  have begun : Agree { n | n ∈ Action.inputs (passActions sources text.toList last) } last
      ⟨scope, [], b⟩ := agree
  obtain ⟨same, _⟩ := alike_pass text.toList begun
    ⟨fun _ isInput => isInput, fun drawn => absurd drawn undrawn⟩
  obtain ⟨others, isSucc⟩ := Nat.exists_eq_succ_of_ne_zero (show passes.toNat ≠ 0 by omega)
  rcases ended : result (pass sources text.toList) ⟨scope, [], b⟩ with ⟨fault | updated, s⟩
  · rw [unchanged, ended] at same
    cases same
  · rw [unchanged, ended] at same
    cases same
    rw [outcome_resolve, isSucc, settle, result_bind_of_ok ended, if_pos rfl, result_pure]
    exact congrArg Except.ok String.ofList_toList

theorem settle_of_resolve {passes : Int} {text resolved : String} {scope : Scope} {b : β}
    (comes : (resolve sources passes text scope b).outcome = .ok resolved) :
    ∃ s, result (settle sources passes.toNat text.toList) ⟨scope, [], b⟩ =
      (.ok (some resolved.toList), s) := by
  rw [outcome_resolve] at comes
  rcases ended : result (settle sources passes.toNat text.toList) ⟨scope, [], b⟩
    with ⟨fault | _ | settled, s⟩ <;> rw [ended] at comes <;> cases comes
  exact ⟨s, by rw [String.toList_ofList]⟩

/-- What a template has been resolved to is resolved to itself if the pass that found it unchanged
draws nothing and no name that this pass reads before it binds it has got another text than in the
scope by a capture of an earlier pass. -/
theorem resolve_again (sources : Sources β) (passes : Int) (text : String) (scope : Scope) (b : β)
    {resolved : String} (comes : (resolve sources passes text scope b).outcome = .ok resolved) :
    ∃ earlier last,
      settling sources passes.toNat text.toList ⟨scope, [], b⟩ = some (earlier, last) ∧
        let actions := passActions sources resolved.toList last
        (.draw ∉ actions →
          (∀ name ∈ Action.inputs actions, name ∈ Action.bound earlier →
            last.bindings.get? name = scope.get? name) →
          ∀ c, (resolve sources passes resolved scope c).outcome = .ok resolved) := by
  obtain ⟨s, ended⟩ := settle_of_resolve comes
  obtain ⟨earlier, last, found, unchanged, kept⟩ := settling_of_settle ended
  refine ⟨earlier, last, found, ?_⟩
  intro actions undrawn sameTexts c
  have positive : 0 < passes := by
    by_contra noPass
    rw [Int.toNat_of_nonpos (by omega)] at found
    cases found
  apply resolve_of_unchanged unchanged undrawn ?_ positive
  intro name isInput
  by_cases isBound : name ∈ Action.bound earlier
  · exact sameTexts name isInput isBound
  · exact kept name isBound

theorem resolve_again_owner :
    let scope := Scope.ofPairs [("who", "Eve")]
    let text := "${@tee|who|Eve}: ${${who}}${@tee|end|!}"
    let settled := "Eve: ${${who}}!"
    (resolve stillSources 100 text scope ()).outcome = .ok settled ∧
      ∃ earlier last,
        settling stillSources 100 text.toList ⟨scope, [], ()⟩ = some (earlier, last) ∧
          passActions stillSources settled.toList last = [.read "who", .read "Eve"] ∧
          "who" ∈ Action.bound earlier ∧ last.bindings.get? "who" = scope.get? "who" ∧
          (resolve stillSources 100 settled scope ()).outcome = .ok settled := by
  intro scope text settled
  have comes : (resolve stillSources 100 text scope ()).outcome = .ok settled := by decide +kernel
  obtain ⟨earlier, last, found, again⟩ := resolve_again stillSources 100 text scope () comes
  have parts : (settling stillSources 100 text.toList ⟨scope, [], ()⟩).map (fun (earlier, last) =>
      (earlier, last.bindings, passActions stillSources settled.toList last)) =
        some ([.bind "who", .read "who", .read "Eve", .bind "end"],
          .ofPairs [("who", "Eve"), ("end", "!")], [.read "who", .read "Eve"]) := by decide +kernel
  change settling stillSources 100 text.toList ⟨scope, [], ()⟩ = _ at found
  rw [found, Option.map_some, Option.some.injEq, Prod.mk.injEq, Prod.mk.injEq] at parts
  obtain ⟨rfl, isBindings, isActions⟩ := parts
  refine ⟨comes, _, last, found, isActions, by decide, by rw [isBindings]; rfl, ?_⟩
  apply again
  · rw [isActions]
    decide
  · rw [isActions, isBindings]
    decide

/-- Sources that choose what has been drawn beforehand, and the first when nothing is left of it. -/
def drawnSources : Sources (List Nat) where
  now draws := ((stillSources.now ()).1, draws)
  choose _ draws := (draws.headD 0, draws.tail)

/-- No function that draws on the sources is written in a text, or in what a scope gives its names. -/
def WritesNoDraw (text : String) (scope : Scope) : Prop :=
  ∀ written ∈ text :: scope.entries.map Prod.snd,
    ¬ "@rand".toList <:+: written.toList ∧ ¬ "@date".toList <:+: written.toList

instance (text : String) (scope : Scope) : Decidable (WritesNoDraw text scope) :=
  inferInstanceAs (Decidable (∀ _ ∈ _, _))

/-- What has been resolved need not be resolved to itself: a name that a capture has hidden is found
in the scope again, and a function that is put together by references draws again. -/
theorem not_resolve_again :
    let hidden := Scope.ofPairs [("key", "first"), ("first", "one")]
    let assembled := Scope.ofPairs [("a", "@ra"), ("b", "nd|11|${}ab")]
    let draws := [0, 1, 0, 1, 3, 2, 0, 1, 4, 2, 2]
    (WritesNoDraw "${@tee|key|second}: ${${key}}" hidden ∧
        (resolve stillSources 100 "${@tee|key|second}: ${${key}}" hidden ()).outcome =
          .ok "second: ${${key}}" ∧
        (resolve stillSources 100 "second: ${${key}}" hidden ()).outcome = .ok "second: one") ∧
      WritesNoDraw "${${a}${b}}" assembled ∧
        (resolve drawnSources 100 "${${a}${b}}" assembled draws).outcome = .ok "${${a}${b}}" ∧
        (resolve drawnSources 100 "${${a}${b}}" assembled draws).source = [] ∧
        (resolve drawnSources 100 "${${a}${b}}" assembled []).outcome = .ok "$$$$$$$$$$$" := by
  decide +kernel

end PromptTree.Template
