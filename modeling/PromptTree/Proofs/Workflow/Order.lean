import PromptTree.Proofs.Template.Dependence
import PromptTree.Proofs.Workflow.Declarations

/-!
The order in which a step declares its fixed variables. Their templates are resolved against one
scope, in which they all stand as they are written, so none sees what another comes to. Main
statement: with steady sources, variables with distinct names that are declared in another order
fail if they failed before, or else give every name the text that it had before, and only the names
that are new in the scope may come in another order (`bindFixed_perm`).
-/

namespace PromptTree.Workflow

open Run

variable {β : Type} {engine : Engine β}

section

variable (steady : engine.toSources.Steady)
include steady

theorem resolve_congr {scope other : Scope} (agree : ∀ name, scope.get? name = other.get? name)
    (template : String) (s t : Session β) :
    (result (resolve engine template scope) s).1 = (result (resolve engine template other) t).1 := by
  rw [result_resolve, result_resolve]
  dsimp only
  rw [Template.outcome_resolve_congr steady engine.passes template agree s.world t.world]

/-- Templates that are resolved one after the other fail if and only if one of them fails on its own.
-/
theorem resolveAll_fails_iff (scope : Scope) (pairs : List (String × String)) (s : Session β) :
    (∃ fault, (result (resolveAll engine scope pairs) s).1 = .error fault) ↔
      ∃ pair ∈ pairs, ∃ fault, (result (resolve engine pair.2 scope) s).1 = .error fault := by
  induction pairs generalizing s with
  | nil => simp [resolveAll]
  | cons pair pairs inductionHypothesis =>
    rw [List.exists_mem_cons_iff, resolveAll, result_bind]
    rcases ended : result (resolve engine pair.2 scope) s with ⟨fault | text, t⟩
    · simp
    · have others : (∃ fault, (result (resolveAll engine scope pairs) t).1 = .error fault) ↔
          ∃ pair ∈ pairs, ∃ fault, (result (resolve engine pair.2 scope) s).1 = .error fault := by
        rw [inductionHypothesis t]
        simp only [resolve_congr steady (fun _ => rfl) _ t s]
      dsimp only
      rw [result_bind]
      rcases endedToo : result (resolveAll engine scope pairs) t with ⟨fault | texts, u⟩
      · rw [endedToo] at others
        simpa using others
      · rw [endedToo] at others
        simpa using others

theorem bindFixed_fails_iff (step : Step) (scope : Scope) (s : Session β) :
    let merged := scope.writeAll step.fixedVariables
    (∃ fault, (result (bindFixed engine step scope) s).1 = .error fault) ↔
      ∃ name template, merged.get? name = some template ∧
        ∃ fault, (result (resolve engine template merged) s).1 = .error fault := by
  intro merged
  have whole := resolveAll_fails_iff steady merged merged.entries s
  simp only [Scope.get?_eq_some_iff]
  rw [Prod.exists] at whole
  rw [← whole]
  unfold bindFixed
  rw [result_bind]
  rcases result (resolveAll engine merged merged.entries) s with ⟨fault | texts, t⟩
  · simp
  · simp

/-- A name that is fixed has the text that its template comes to in the scope of all templates. -/
theorem map_get?_of_bindFixed {step : Step} {scope fixed : Scope} {s t : Session β}
    (ended : result (bindFixed engine step scope) s = (.ok fixed, t)) (name : String) :
    let merged := scope.writeAll step.fixedVariables
    (merged.get? name).map (fun template => (result (resolve engine template merged) s).1) =
      (fixed.get? name).map .ok := by
  intro merged
  have sameNames : fixed.names = merged.names := names_of_bindFixed ended
  obtain ⟨resolved, _, allResolved, ended⟩ := result_bind_eq_ok_iff.mp ended
  cases ended
  cases found : merged.get? name with
  | none =>
    have absent := Scope.get?_eq_none_iff.mp found
    rw [← sameNames] at absent
    rw [Scope.get?_eq_none_iff.mpr absent]
    rfl
  | some template =>
    obtain ⟨begun, text, after, templateEnded, isText⟩ := lookup_of_resolveAll allResolved found
    have distinct : (resolved.map Prod.fst).Nodup := by
      rw [map_fst_of_resolveAll allResolved]
      exact merged.nodup
    rw [Scope.get?, Scope.entries_ofPairs distinct, isText, Option.map_some, Option.map_some,
      resolve_congr steady (fun _ => rfl) template s begun, templateEnded]

end

/-- With steady sources the order in which variables with distinct names are fixed makes no
difference, but for the order of the names that are new: both orders fail, or both give every name
the same text. -/
theorem bindFixed_perm (engine : Engine β) (first second : Step) (scope : Scope) (s t : Session β)
    (steady : engine.toSources.Steady) (distinct : (first.fixedVariables.map Prod.fst).Nodup)
    (perm : first.fixedVariables.Perm second.fixedVariables) :
    (∃ fault other, (result (bindFixed engine first scope) s).1 = .error fault ∧
        (result (bindFixed engine second scope) t).1 = .error other) ∨
      ∃ fixed other : Scope, (result (bindFixed engine first scope) s).1 = .ok fixed ∧
        (result (bindFixed engine second scope) t).1 = .ok other ∧
        (∀ name, fixed.get? name = other.get? name) ∧
        ∃ added reordered, fixed.names = scope.names ++ added ∧
          other.names = scope.names ++ reordered ∧ added.Perm reordered := by
  have agree := Scope.get?_writeAll_perm scope perm distinct
  have sameFailure (template : String) := resolve_congr steady agree template s t
  have failsIff := bindFixed_fails_iff steady first scope s
  have failsIffToo := bindFixed_fails_iff steady second scope t
  simp only [agree, sameFailure] at failsIff
  have failsTogether := failsIff.trans failsIffToo.symm
  rcases ended : result (bindFixed engine first scope) s with ⟨fault | fixed, u⟩
  · obtain ⟨other, failedToo⟩ := failsTogether.mp ⟨fault, by rw [ended]⟩
    exact .inl ⟨fault, other, rfl, failedToo⟩
  · rcases endedToo : result (bindFixed engine second scope) t with ⟨fault | other, v⟩
    · obtain ⟨other, failed⟩ := failsTogether.mpr ⟨fault, by rw [endedToo]⟩
      rw [ended] at failed
      cases failed
    · have names := names_of_bindFixed ended
      have namesToo := names_of_bindFixed endedToo
      rw [Scope.names_writeAll scope distinct] at names
      rw [Scope.names_writeAll scope ((perm.map Prod.fst).nodup_iff.mp distinct)] at namesToo
      refine .inr ⟨fixed, other, rfl, rfl, ?_, _, _, names, namesToo, (perm.map Prod.fst).filter _⟩
      intro name
      have texts := map_get?_of_bindFixed steady ended name
      have textsToo := map_get?_of_bindFixed steady endedToo name
      simp only [agree, sameFailure] at texts
      exact Option.map_injective (fun _ _ => Except.ok.inj) (texts.symm.trans textsToo)

/-- A letter that refers to what is declared later, inside out, and captures it. -/
def letterStep : Step :=
  declaringStep
    [.fixed "letter" "${@tee|end|!}${${role}}${>who}${end}", .fixed "role" "reader",
      .fixed "reader" "${whom} ${title}"]

def reorderedLetterStep : Step :=
  declaringStep
    [.fixed "reader" "${whom} ${title}", .fixed "role" "reader",
      .fixed "letter" "${@tee|end|!}${${role}}${>who}${end}"]

theorem bindFixed_perm_letterStep :
    let scope := Scope.ofPairs [("whom", "Eve"), ("role", "writer")]
    owlEngine.toSources.Steady ∧ (letterStep.fixedVariables.map Prod.fst).Nodup ∧
      letterStep.fixedVariables.Perm reorderedLetterStep.fixedVariables ∧
      ∃ fixed other : Scope,
        fixed = .ofPairs [("whom", "Eve"), ("role", "reader"), ("letter", "!Eve ${title}!"),
          ("reader", "Eve ${title}")] ∧
        (result (bindFixed owlEngine letterStep scope) (.start ())).1 = .ok fixed ∧
        (result (bindFixed owlEngine reorderedLetterStep scope) (.start ())).1 = .ok other ∧
        (∀ name, fixed.get? name = other.get? name) ∧
        ∃ added reordered, fixed.names = scope.names ++ added ∧
          other.names = scope.names ++ reordered ∧ added.Perm reordered := by
  intro scope
  have steady : owlEngine.toSources.Steady := ⟨fun _ _ => rfl, fun _ _ _ => rfl⟩
  have distinct : (letterStep.fixedVariables.map Prod.fst).Nodup := by decide
  have perm : letterStep.fixedVariables.Perm reorderedLetterStep.fixedVariables := by decide
  have bound : (result (bindFixed owlEngine letterStep scope) (.start ())).1 =
      .ok (.ofPairs [("whom", "Eve"), ("role", "reader"), ("letter", "!Eve ${title}!"),
        ("reader", "Eve ${title}")]) := by decide +kernel
  refine ⟨steady, distinct, perm, ?_⟩
  rcases bindFixed_perm owlEngine letterStep reorderedLetterStep scope (.start ()) (.start ()) steady
    distinct perm with ⟨fault, _, failed, _⟩ | ⟨fixed, other, ended, same⟩
  · rw [bound] at failed
    cases failed
  · rw [bound] at ended
    cases ended
    exact ⟨_, other, rfl, bound, same⟩

end PromptTree.Workflow
