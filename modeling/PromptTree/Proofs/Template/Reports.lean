import PromptTree.Proofs.Template.Capture
import PromptTree.Proofs.Template.Idempotence

/-!
Which names a resolution reports. From each state to every later one names stay bound and reports stay
made, and what is reported on the way is a name that was not bound, and was not reported before
(`advancing_settle`). Main statements: so a resolution reports each name once, and no name of its scope
(`reported_of_resolve`); and every name that a resolved text still refers to is reported or has been bound
(`named_of_resolve`).
-/

namespace PromptTree.Template

variable {β : Type} {sources : Sources β}

/-! ### From one state to a later one -/

/-- What can change of the bindings and reports while a resolution goes on. -/
structure Advances (r s : Resolution β) : Prop where
  bound : r.bindings.names ⊆ s.bindings.names
  kept : r.unbound ⊆ s.unbound
  unknown : ∀ u ∈ s.unbound, u ∈ r.unbound ∨ u.name ∉ r.bindings.names
  once : (r.unbound.map Unbound.name).Nodup → (s.unbound.map Unbound.name).Nodup

theorem Advances.of_unbound {r s : Resolution β} (bound : r.bindings.names ⊆ s.bindings.names)
    (same : s.unbound = r.unbound) : Advances r s where
  bound := bound
  kept := by rw [same]; exact List.Subset.refl _
  unknown := by
    intro u isReport
    exact .inl (same ▸ isReport)
  once := by
    rw [same]
    exact id

theorem Advances.refl (r : Resolution β) : Advances r r :=
  .of_unbound (List.Subset.refl _) rfl

theorem Advances.trans {r s t : Resolution β} (first : Advances r s) (second : Advances s t) :
    Advances r t where
  bound := List.Subset.trans first.bound second.bound
  kept := List.Subset.trans first.kept second.kept
  unknown := by
    intro u isReport
    rcases second.unknown u isReport with isOld | unknown
    · exact first.unknown u isOld
    · exact .inr fun isBound => unknown (first.bound isBound)
  once := second.once ∘ first.once

def Advancing {α : Type} (stretch : Resolving β α) : Prop :=
  ∀ r, Advances r (result stretch r).2

section

variable {α γ : Type}

theorem advancing_pure (a : α) : Advancing (pure a : Resolving β α) :=
  Advances.refl

theorem advancing_throw (fault : Fault) : Advancing (throw fault : Resolving β α) :=
  Advances.refl

theorem Advancing.bind {stretch : Resolving β α} {next : α → Resolving β γ}
    (first : Advancing stretch) (second : ∀ a, Advancing (next a)) :
    Advancing (stretch >>= next) := by
  intro r
  have begun := first r
  rw [result_bind]
  rcases ended : result stretch r with ⟨fault | a, s⟩
  · rw [ended] at begun
    exact begun
  · rw [ended] at begun
    exact begun.trans (second a s)

theorem advancing_bindName (name value : List Char) :
    Advancing (Resolving.bindName name value : Resolving β Unit) := by
  intro r
  exact .of_unbound (Scope.names_prefix_write r.bindings _ _).subset rfl

/-- A name that is not bound is reported, unless it has been before. -/
theorem advances_report {name : List Char} {r : Resolution β}
    (unknown : String.ofList name ∉ r.bindings.names) (raw : List Char) :
    Advances r (result (Resolving.report name raw) r).2 := by
  change Advances r (if r.unbound.any (·.name == String.ofList name) then r else _)
  split
  · exact .refl r
  · next new =>
    refine ⟨List.Subset.refl _, List.subset_append_left _ _, ?_, ?_⟩
    · intro u isReport
      rcases List.mem_append.mp isReport with isOld | isNew
      · exact .inl isOld
      · obtain rfl := List.mem_singleton.mp isNew
        exact .inr unknown
    · intro once
      rw [List.map_append, List.map_singleton, List.nodup_append]
      refine ⟨once, List.nodup_singleton _, ?_⟩
      rintro other isOther _ isName rfl
      obtain ⟨u, isReport, isSame⟩ := List.mem_map.mp isOther
      apply new
      rw [List.any_eq_true]
      exact ⟨u, isReport, by simpa [isSame] using isName⟩

theorem advancing_randomChars (charset : List Char) (count : Nat) :
    Advancing (Resolving.randomChars sources charset count) := by
  intro r
  obtain ⟨source, same⟩ :
      ∃ source, (result (Resolving.randomChars sources charset count) r).2 = { r with source } :=
    after_randomChars charset count
  rw [same]
  exact .of_unbound (List.Subset.refl _) rfl

theorem advancing_perform (raw : List Char) (command : Command) :
    Advancing (Resolving.perform sources raw command) := by
  cases command with
  | camel name => exact Advances.refl
  | tee name value =>
    apply (advancing_bindName name value).bind
    intro _
    exact advancing_pure value
  | date pattern expression =>
    intro r
    unfold Resolving.perform
    dsimp only
    rw [result_bind_of_ok (result_now r)]
    split <;> exact .of_unbound (List.Subset.refl _) rfl
  | random length charset =>
    unfold Resolving.perform
    dsimp only
    split
    · exact advancing_randomChars charset _
    · exact advancing_throw _
  | lookup name =>
    intro r
    unfold Resolving.perform
    dsimp only
    rw [result_bind_of_ok (result_lookup name r)]
    cases found : r.bindings.get? (.ofList name) with
    | some value => exact .refl r
    | none =>
      have reported := advances_report (Scope.get?_eq_none_iff.mp found) raw
      exact reported

end

mutual

theorem advancing_eval : (p : Piece) → Advancing (p.eval sources)
  | .char c => advancing_pure [c]
  | .reference body capture => by
    unfold Piece.eval
    dsimp only
    split
    · exact advancing_pure _
    · apply (advancing_evalAll body).bind
      intro evaluated
      apply (advancing_perform _ _).bind
      intro value
      cases capture with
      | none => exact advancing_pure value
      | some name =>
        apply (advancing_bindName name value).bind
        intro _
        exact advancing_pure value
termination_by structural p => p

theorem advancing_evalAll : (ps : List Piece) → Advancing (Piece.evalAll sources ps)
  | [] => advancing_pure []
  | p :: ps => by
    unfold Piece.evalAll
    apply (advancing_eval p).bind
    intro value
    apply (advancing_evalAll ps).bind
    intro others
    exact advancing_pure _
termination_by structural ps => ps

end

theorem advancing_pass (text : List Char) : Advancing (pass sources text) :=
  advancing_evalAll (Piece.read text)

theorem advancing_settle (passes : Nat) (text : List Char) :
    Advancing (settle sources passes text) := by
  induction passes generalizing text with
  | zero => exact advancing_pure none
  | succ passes inductionHypothesis =>
    apply (advancing_pass text).bind
    intro updated
    split
    · exact advancing_pure _
    · exact inductionHypothesis updated

/-! ### What is reported -/

theorem unbound_resolve (passes : Int) (text : String) (scope : Scope) (b : β) :
    (resolve sources passes text scope b).unbound =
      (result (settle sources passes.toNat text.toList) ⟨scope, [], b⟩).2.unbound := rfl

/-- Whether it comes to a text or not, a resolution reports each name once, and none that its scope
has. -/
theorem reported_of_resolve (sources : Sources β) (passes : Int) (text : String) (scope : Scope)
    (b : β) :
    let reported := (resolve sources passes text scope b).unbound.map Unbound.name
    reported.Nodup ∧ ∀ name ∈ scope.names, name ∉ reported := by
  have advances : Advances ⟨scope, [], b⟩
      (result (settle sources passes.toNat text.toList) ⟨scope, [], b⟩).2 :=
    advancing_settle passes.toNat text.toList _
  rw [unbound_resolve]
  refine ⟨advances.once List.nodup_nil, ?_⟩
  intro name isName isReported
  obtain ⟨u, isReport, rfl⟩ := List.mem_map.mp isReported
  rcases advances.unknown u isReport with isOld | unknown
  · cases isOld
  · exact unknown isName

/-! ### What is left unreported -/

def Resolution.Knows (r : Resolution β) (name : String) : Prop :=
  name ∈ r.bindings.names ∨ name ∈ r.unbound.map Unbound.name

theorem Advances.knows {r s : Resolution β} (advances : Advances r s) {name : String}
    (knows : r.Knows name) : s.Knows name :=
  knows.imp (fun isBound => advances.bound isBound)
    fun isReported => List.map_subset Unbound.name advances.kept isReported

theorem knows_of_report (name raw : List Char) (r : Resolution β) :
    (result (Resolving.report name raw) r).2.Knows (.ofList name) := by
  right
  change _ ∈ List.map _ (Resolution.unbound (if r.unbound.any (·.name == String.ofList name) then r
    else _))
  split
  · next before =>
    obtain ⟨u, isReport, isName⟩ := List.any_eq_true.mp before
    exact List.mem_map.mpr ⟨u, isReport, eq_of_beq isName⟩
  · exact List.mem_map_of_mem (List.mem_append_right _ List.mem_cons_self)

theorem knows_of_lookup {raw name value : List Char} {r s : Resolution β}
    (performed : result (Resolving.perform sources raw (.lookup name)) r = (.ok value, s)) :
    s.Knows (.ofList name) := by
  unfold Resolving.perform at performed
  dsimp only at performed
  rw [result_bind_of_ok (result_lookup name r)] at performed
  cases found : r.bindings.get? (.ofList name) with
  | some text =>
    rw [found] at performed
    cases performed
    have isEntry := Scope.get?_eq_some_iff.mp found
    exact .inl (List.mem_map_of_mem isEntry)
  | none =>
    rw [found] at performed
    obtain ⟨_, t, reported, ended⟩ := result_bind_eq_ok_iff.mp performed
    cases ended
    have knows := knows_of_report name raw r
    rwa [reported] at knows

/-- Once a reference to a name is evaluated, the name is known. -/
theorem knows_of_eval {label : Label} {capture : Option (List Char)} {value : List Char}
    {r s : Resolution β}
    (ended : result (Piece.eval sources (.reference (label.1.map .char) capture)) r = (.ok value, s)) :
    s.Knows (.ofList label.1) := by
  have noCapture : ¬ (Piece.rawAll (label.1.map .char)).head? = some '>' := by
    rw [Piece.rawAll_map_char]
    exact label.noCapture
  have asks : Command.ofBody label.1 = .lookup label.1 :=
    ofBody_of_noFunction (fun isBar => (label.plain _ isBar).2.2.2 rfl) label.noFunction
  unfold Piece.eval at ended
  rw [if_neg noCapture, result_bind_of_ok (result_evalAll_map_char sources label.1 r), asks] at ended
  obtain ⟨text, t, performed, ended⟩ := result_bind_eq_ok_iff.mp ended
  have knows := knows_of_lookup performed
  cases capture with
  | none =>
    cases ended
    exact knows
  | some name =>
    cases ended
    exact (advancing_bindName name value t).knows knows

theorem knows_of_evalAll {ps : List Piece} {label : Label} {capture : Option (List Char)}
    (isPiece : .reference (label.1.map .char) capture ∈ ps) {text : List Char} {r s : Resolution β}
    (ended : result (Piece.evalAll sources ps) r = (.ok text, s)) : s.Knows (.ofList label.1) := by
  induction ps generalizing r text with
  | nil => cases isPiece
  | cons p ps inductionHypothesis =>
    rw [Piece.evalAll] at ended
    obtain ⟨value, t, firstEnded, ended⟩ := result_bind_eq_ok_iff.mp ended
    obtain ⟨others, u, restEnded, ended⟩ := result_bind_eq_ok_iff.mp ended
    cases ended
    rcases List.mem_cons.mp isPiece with rfl | isLater
    · have advances : Advances t (result (Piece.evalAll sources ps) t).2 := advancing_evalAll ps t
      rw [restEnded] at advances
      exact advances.knows (knows_of_eval firstEnded)
    · exact inductionHypothesis isLater restEnded

/-- What a resolution does with names and sources, in order. -/
def settleActions (sources : Sources β) :
    (passes : Nat) → List Char → Resolution β → List Action
  | 0, _, _ => []
  | passes + 1, text, r =>
    passActions sources text r ++
      match result (pass sources text) r with
      | (.error _, _) => []
      | (.ok updated, s) => if updated = text then [] else settleActions sources passes updated s

theorem keeps_settle (passes : Nat) (text : List Char) (r : Resolution β) :
    Keeps (settleActions sources passes text r) r (result (settle sources passes text) r) := by
  induction passes generalizing text r with
  | zero => exact .of_bindings rfl
  | succ passes inductionHypothesis =>
    unfold settleActions settle
    apply (keeps_pass text r).bind
    intro updated s passed
    rw [passed]
    dsimp only
    split
    · exact .of_bindings rfl
    · exact inductionHypothesis updated s

/-- A name that a resolved text still refers to is reported, or the scope has it, or a capture has bound
it on the way. -/
theorem named_of_resolve {passes : Int} {text resolved : String} {scope : Scope} {b : β}
    (comes : (resolve sources passes text scope b).outcome = .ok resolved) {label : Label}
    {capture : Option (List Char)}
    (isPiece : .reference (label.1.map .char) capture ∈ Piece.read resolved.toList) :
    let name := String.ofList label.1
    name ∈ (resolve sources passes text scope b).unbound.map Unbound.name ∨ name ∈ scope.names ∨
      name ∈ Action.bound (settleActions sources passes.toNat text.toList ⟨scope, [], b⟩) := by
  intro name
  obtain ⟨s, ended⟩ := settle_of_resolve comes
  obtain ⟨_, last, _, unchanged, _⟩ := settling_of_settle ended
  have kept : Keeps (settleActions sources passes.toNat text.toList ⟨scope, [], b⟩) ⟨scope, [], b⟩
      (result (settle sources passes.toNat text.toList) ⟨scope, [], b⟩) :=
    keeps_settle passes.toNat text.toList _
  rw [ended] at kept
  rw [unbound_resolve, ended]
  rcases knows_of_evalAll isPiece unchanged with isBound | isReported
  · right
    by_cases isCaptured :
      name ∈ Action.bound (settleActions sources passes.toNat text.toList ⟨scope, [], b⟩)
    · exact .inr isCaptured
    · left
      by_contra isNoName
      have unbound := (kept name isCaptured).trans (Scope.get?_eq_none_iff.mpr isNoName)
      exact Scope.get?_eq_none_iff.mp unbound isBound
  · exact .inl isReported

end PromptTree.Template
