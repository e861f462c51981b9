import Mathlib.Data.Set.Basic
import PromptTree.Proofs.Template.Expansion

/-!
What an evaluation depends on. Evaluating pieces reads names, binds names and draws on the sources; it
depends on the bindings that it begins with only through the names that it reads before it binds them.
Main statements: two evaluations of the same pieces come to the same if they begin with the same
texts for these names and draw nothing, or draw on sources that always give the same
(`alike_evalAll`); so a template comes to the same in scopes that differ only in the order of their
names (`outcome_resolve_congr`).
-/

namespace PromptTree.Template

/-! ### Actions -/

/-- Something that an evaluation does with a name or with the sources. -/
inductive Action where
  | read (name : String)
  | bind (name : String)
  | draw
deriving DecidableEq

namespace Action

def inputs : List Action → List String
  | [] => []
  | .read name :: rest => name :: inputs rest
  | .bind name :: rest => (inputs rest).filter (· ≠ name)
  | .draw :: rest => inputs rest

def bound : List Action → List String
  | [] => []
  | .bind name :: rest => name :: bound rest
  | .read _ :: rest | .draw :: rest => bound rest

theorem bound_append (first second : List Action) :
    bound (first ++ second) = bound first ++ bound second := by
  induction first with
  | nil => rfl
  | cons action first inductionHypothesis =>
    cases action <;> simp [bound, inductionHypothesis]

theorem mem_inputs_append {first second : List Action} {name : String} :
    name ∈ inputs (first ++ second) ↔
      name ∈ inputs first ∨ name ∈ inputs second ∧ name ∉ bound first := by
  induction first with
  | nil => simp [inputs, bound]
  | cons action first inductionHypothesis =>
    cases action with
    | read other => simp [inputs, bound, inductionHypothesis, or_assoc]
    | draw => simp [inputs, bound, inductionHypothesis]
    | bind other =>
      by_cases same : name = other <;> simp [inputs, bound, inductionHypothesis, same]

end Action

def Command.actions : Command → List Action
  | .camel name | .lookup name => [.read (.ofList name)]
  | .tee name _ => [.bind (.ofList name)]
  | .date _ _ | .random _ _ => [.draw]

variable {β : Type}

namespace Piece

mutual

/-- What evaluating a piece does with names and sources, in order. -/
def actions (sources : Sources β) : Piece → Resolution β → List Action
  | .char _, _ => []
  | .reference body capture, r =>
    if (rawAll body).head? = some '>' then []
    else
      actionsAll sources body r ++
        match result (evalAll sources body) r with
        | (.ok evaluated, _) =>
          (Command.ofBody evaluated).actions ++
            capture.toList.map fun name => Action.bind (.ofList name)
        | (.error _, _) => []
termination_by structural p => p

/-- What evaluating pieces does with names and sources, in order. -/
def actionsAll (sources : Sources β) : List Piece → Resolution β → List Action
  | [], _ => []
  | p :: ps, r =>
    actions sources p r ++
      match result (eval sources p) r with
      | (.ok _, s) => actionsAll sources ps s
      | (.error _, _) => []
termination_by structural ps => ps

end

end Piece

/-- What a pass over a text does with names and sources, in order. -/
def passActions (sources : Sources β) (text : List Char) (r : Resolution β) : List Action :=
  Piece.actionsAll sources (Piece.read text) r

/-! ### Two evaluations -/

/-- Time stands still, and a choice from as many is always the same. -/
structure Sources.Steady (sources : Sources β) : Prop where
  now : ∀ b c, (sources.now b).1 = (sources.now c).1
  choose : ∀ count b c, (sources.choose count b).1 = (sources.choose count c).1

def Agree (names : Set String) (r s : Resolution β) : Prop :=
  ∀ name ∈ names, r.bindings.get? name = s.bindings.get? name

/-- Two evaluations come to the same, and what the first of them binds is the same in both from then
on. -/
def Alike {α : Type} (names : Set String) (actions : List Action)
    (first second : Except Fault α × Resolution β) : Prop :=
  first.1 = second.1 ∧
    ∀ value, first.1 = .ok value → Agree (names ∪ { n | n ∈ Action.bound actions }) first.2 second.2

/-- Everything that the actions depend on is among the names, or comes from steady sources. -/
structure Supplied (sources : Sources β) (names : Set String) (actions : List Action) : Prop where
  inputs : ∀ name ∈ Action.inputs actions, name ∈ names
  draws : .draw ∈ actions → sources.Steady

theorem supplied_append {sources : Sources β} {names : Set String} {first second : List Action} :
    Supplied sources names (first ++ second) ↔
      Supplied sources names first ∧
        Supplied sources (names ∪ { n | n ∈ Action.bound first }) second := by
  constructor
  · rintro ⟨inputs, draws⟩
    refine ⟨⟨fun name isInput => ?_, fun drawn => ?_⟩, fun name isInput => ?_, fun drawn => ?_⟩
    · exact inputs name (Action.mem_inputs_append.mpr (.inl isInput))
    · exact draws (List.mem_append_left _ drawn)
    · by_cases isBound : name ∈ Action.bound first
      · exact .inr isBound
      · exact .inl (inputs name (Action.mem_inputs_append.mpr (.inr ⟨isInput, isBound⟩)))
    · exact draws (List.mem_append_right _ drawn)
  · rintro ⟨⟨inputs, draws⟩, ⟨laterInputs, laterDraws⟩⟩
    refine ⟨fun name isInput => ?_, fun drawn => ?_⟩
    · rcases Action.mem_inputs_append.mp isInput with isInput | ⟨isInput, notBound⟩
      · exact inputs name isInput
      · exact (laterInputs name isInput).resolve_right notBound
    · exact (List.mem_append.mp drawn).elim draws laterDraws

section

variable {α γ : Type} {sources : Sources β} {names : Set String} {r s : Resolution β}

theorem Agree.mono {fewer : Set String} (agree : Agree names r s) (subset : fewer ⊆ names) :
    Agree fewer r s :=
  fun name isName => agree name (subset isName)

theorem Agree.write (agree : Agree names r s) (name value : List Char) :
    Agree (names ∪ { n | n ∈ [String.ofList name] })
      { r with bindings := r.bindings.write (.ofList name) (.ofList value) }
      { s with bindings := s.bindings.write (.ofList name) (.ofList value) } := by
  intro other known
  rw [Scope.get?_write, Scope.get?_write]
  by_cases same : other = String.ofList name
  · rw [if_pos same, if_pos same]
  · rw [if_neg same, if_neg same]
    apply agree
    exact known.resolve_right fun isName => same (List.mem_singleton.mp isName)

theorem Alike.of_ok {t u : Resolution β} {actions : List Action} (value : α)
    (agree : Agree names t u) (bindsNothing : Action.bound actions = []) :
    Alike names actions (.ok value, t) (.ok value, u) := by
  refine ⟨rfl, ?_⟩
  intro _ _
  simpa [bindsNothing] using agree

theorem Alike.of_error {t u : Resolution β} {actions : List Action} (fault : Fault) :
    Alike (α := α) names actions (.error fault, t) (.error fault, u) := by
  refine ⟨rfl, ?_⟩
  intro _ isOk
  cases isOk

theorem Alike.bind {stretch : Resolving β α} {next : α → Resolving β γ}
    {actions later : List Action}
    (first : Alike names actions (result stretch r) (result stretch s))
    (second : ∀ a t u, result stretch r = (.ok a, t) →
      Agree (names ∪ { n | n ∈ Action.bound actions }) t u →
      Alike (names ∪ { n | n ∈ Action.bound actions }) later
        (result (next a) t) (result (next a) u)) :
    Alike names (actions ++ later) (result (stretch >>= next) r) (result (stretch >>= next) s) := by
  obtain ⟨same, agree⟩ := first
  rw [result_bind, result_bind]
  rcases ended : result stretch r with ⟨fault | a, t⟩ <;>
    rcases endedToo : result stretch s with ⟨faultToo | b, u⟩ <;>
    rw [ended, endedToo] at same <;> cases same
  · exact .of_error _
  · rw [ended, endedToo] at agree
    obtain ⟨sameLater, agreeLater⟩ := second a t u ended (agree a rfl)
    refine ⟨sameLater, fun value isOk => ?_⟩
    apply (agreeLater value isOk).mono
    intro name known
    simpa [Action.bound_append, or_assoc] using known

/-- Steady sources choose one character again and again. -/
theorem Sources.Steady.result_randomChars (steady : sources.Steady) (charset : List Char)
    (count : Nat) (r : Resolution β) :
    let chosen := charset[(sources.choose charset.length r.source).1]?.toList
    ∃ source, result (Resolving.randomChars sources charset count) r =
      (.ok (List.replicate count chosen).flatten, { r with source }) := by
  induction count generalizing r with
  | zero => exact ⟨r.source, rfl⟩
  | succ count inductionHypothesis =>
    let after := (sources.choose charset.length r.source).2
    obtain ⟨source, ended⟩ := inductionHypothesis { r with source := after }
    refine ⟨source, ?_⟩
    rw [Resolving.randomChars, result_bind_of_ok (result_get r)]
    dsimp only at ended ⊢
    rw [result_bind_of_ok (result_set r _), result_bind_of_ok ended, result_pure,
      steady.choose charset.length after r.source]
    rfl

theorem result_now (r : Resolution β) :
    result (Resolving.now sources) r =
      (.ok (sources.now r.source).1, { r with source := (sources.now r.source).2 }) := rfl

theorem alike_draw (steady : sources.Steady) (raw : List Char) {command : Command}
    (draws : command.actions = [.draw]) (agree : Agree names r s) :
    Alike names command.actions (result (Resolving.perform sources raw command) r)
      (result (Resolving.perform sources raw command) s) := by
  have bindsNothing : Action.bound command.actions = [] := by rw [draws]; rfl
  cases command with
  | camel | tee | lookup => cases draws
  | date pattern expression =>
    unfold Resolving.perform
    dsimp only
    rw [result_bind_of_ok (result_now r), result_bind_of_ok (result_now s),
      steady.now r.source s.source]
    split
    · exact Alike.of_ok _ agree bindsNothing
    · exact Alike.of_error _
  | random length charset =>
    unfold Resolving.perform
    dsimp only
    split
    · next count _ =>
      obtain ⟨source, ended⟩ := steady.result_randomChars charset count r
      obtain ⟨other, endedToo⟩ := steady.result_randomChars charset count s
      rw [ended, endedToo, steady.choose charset.length r.source s.source]
      exact Alike.of_ok _ agree bindsNothing
    · exact Alike.of_error _

theorem alike_perform (raw : List Char) (command : Command) (agree : Agree names r s)
    (supplied : Supplied sources names command.actions) :
    Alike names command.actions (result (Resolving.perform sources raw command) r)
      (result (Resolving.perform sources raw command) s) := by
  cases command with
  | camel name =>
    unfold Resolving.perform
    dsimp only
    rw [result_bind_of_ok (result_lookup name r), result_bind_of_ok (result_lookup name s),
      agree _ (supplied.inputs _ List.mem_cons_self)]
    exact Alike.of_ok _ agree rfl
  | tee name value => exact ⟨rfl, fun _ _ => agree.write name value⟩
  | date pattern expression => exact alike_draw (supplied.draws List.mem_cons_self) raw rfl agree
  | random length charset => exact alike_draw (supplied.draws List.mem_cons_self) raw rfl agree
  | lookup name =>
    unfold Resolving.perform
    dsimp only
    rw [result_bind_of_ok (result_lookup name r), result_bind_of_ok (result_lookup name s),
      agree _ (supplied.inputs _ List.mem_cons_self)]
    cases s.bindings.get? (.ofList name) with
    | some value => exact Alike.of_ok _ agree rfl
    | none =>
      obtain ⟨t, reported, sameBindings⟩ := result_report name raw r
      obtain ⟨u, reportedToo, sameBindingsToo⟩ := result_report name raw s
      dsimp only [Option.map_none]
      rw [result_bind_of_ok reported, result_bind_of_ok reportedToo]
      refine Alike.of_ok _ ?_ rfl
      unfold Agree
      rw [sameBindings, sameBindingsToo]
      exact agree

mutual

theorem alike_eval : (p : Piece) → ∀ {names : Set String} {r s : Resolution β},
    Agree names r s → Supplied sources names (p.actions sources r) →
    Alike names (p.actions sources r) (result (p.eval sources) r) (result (p.eval sources) s)
  | .char c, names, r, s, agree, _ => Alike.of_ok [c] agree rfl
  | .reference body capture, names, r, s, agree, supplied => by
    unfold Piece.actions at supplied ⊢
    unfold Piece.eval
    by_cases marked : (Piece.rawAll body).head? = some '>'
    · rw [if_pos marked, if_pos marked]
      exact Alike.of_ok _ agree rfl
    · rw [if_neg marked] at supplied ⊢
      rw [if_neg marked]
      rw [supplied_append] at supplied
      apply Alike.bind (alike_evalAll body agree supplied.1)
      intro evaluated t u ended agree
      rw [ended] at supplied ⊢
      have suppliedLater := supplied_append.mp supplied.2
      apply Alike.bind (alike_perform _ _ agree suppliedLater.1)
      intro value t u _ agree
      cases capture with
      | none => exact Alike.of_ok value agree rfl
      | some name => exact ⟨rfl, fun _ _ => agree.write name value⟩
termination_by structural p => p

/-- Two evaluations of the same pieces come to the same if they agree on the names that they read
before they bind them. -/
theorem alike_evalAll : (ps : List Piece) → ∀ {names : Set String} {r s : Resolution β},
    Agree names r s → Supplied sources names (Piece.actionsAll sources ps r) →
    Alike names (Piece.actionsAll sources ps r) (result (Piece.evalAll sources ps) r)
      (result (Piece.evalAll sources ps) s)
  | [], _, _, _, agree, _ => Alike.of_ok [] agree rfl
  | p :: ps, names, r, s, agree, supplied => by
    unfold Piece.actionsAll at supplied ⊢
    unfold Piece.evalAll
    rw [supplied_append] at supplied
    apply Alike.bind (alike_eval p agree supplied.1)
    intro value t u ended agree
    rw [ended] at supplied ⊢
    dsimp only at supplied ⊢
    rw [← List.append_nil (Piece.actionsAll sources ps t)]
    apply Alike.bind (alike_evalAll ps agree supplied.2)
    intro others t u _ agree
    exact Alike.of_ok _ agree rfl
termination_by structural ps => ps

end

/-- A pass over a text comes to the same in both resolutions if they agree on the names that it reads
before it binds them. -/
theorem alike_pass (text : List Char) (agree : Agree names r s)
    (supplied : Supplied sources names (passActions sources text r)) :
    Alike names (passActions sources text r) (result (pass sources text) r)
      (result (pass sources text) s) :=
  alike_evalAll (Piece.read text) agree supplied

/-! ### Scopes that agree on all names -/

theorem Sources.Steady.supplied (steady : sources.Steady) (actions : List Action) :
    Supplied sources Set.univ actions :=
  ⟨fun _ _ => trivial, fun _ => steady⟩

theorem settle_congr (steady : sources.Steady) (passes : Nat) (text : List Char)
    (agree : Agree Set.univ r s) :
    (result (settle sources passes text) r).1 = (result (settle sources passes text) s).1 := by
  induction passes generalizing text r s with
  | zero => rfl
  | succ passes inductionHypothesis =>
    obtain ⟨same, agreeLater⟩ := alike_pass text agree (steady.supplied _)
    unfold settle
    rw [result_bind, result_bind]
    rcases ended : result (pass sources text) r with ⟨fault | updated, t⟩ <;>
      rcases endedToo : result (pass sources text) s with ⟨faultToo | updatedToo, u⟩ <;>
      rw [ended, endedToo] at same <;> cases same
    · rfl
    · rw [ended, endedToo] at agreeLater
      dsimp only
      split
      · rfl
      · exact inductionHypothesis updated ((agreeLater updated rfl).mono Set.subset_union_left)

/-- With steady sources a template comes to the same in all scopes that have the same texts, in
whatever order. -/
theorem outcome_resolve_congr (steady : sources.Steady) (passes : Int) (text : String)
    {scope other : Scope} (agree : ∀ name, scope.get? name = other.get? name) (b c : β) :
    (resolve sources passes text scope b).outcome =
      (resolve sources passes text other c).outcome := by
  have begun : Agree (β := β) Set.univ ⟨scope, [], b⟩ ⟨other, [], c⟩ := fun name _ => agree name
  rw [outcome_resolve, outcome_resolve, settle_congr steady _ _ begun]

end

end PromptTree.Template
