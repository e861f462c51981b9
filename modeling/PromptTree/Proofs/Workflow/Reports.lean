import PromptTree.Proofs.Template.Reports
import PromptTree.Proofs.Workflow.TextSafety

/-!
The warnings of a resolution in a run. Main statement: whatever has been logged before, a resolution
logs one warning for each name that it finds unbound, never for a name of its scope, and leaves no
reference to a name in its text that is neither reported nor bound (`resolve_reports`).
-/

namespace PromptTree.Workflow

open Template

def warning (u : Unbound) : Event :=
  .logged ⟨.template, .warning, u.message⟩

theorem resolve_reports {β : Type} (engine : Engine β) (text : String) (scope : Scope)
    (s : Session β) :
    let resolved := resolve engine.toSources engine.passes text scope s.world
    let reported := resolved.unbound.map Unbound.name
    let start : Resolution β := ⟨scope, [], s.world⟩
    let ended := result (Run.resolve engine text scope) s
    ended.1 = resolved.outcome.mapError .template ∧
      ended.2.journal = s.journal ++ resolved.unbound.map warning ∧
      reported.Nodup ∧ (∀ name ∈ scope.names, name ∉ reported) ∧
      ∀ settled, ended.1 = .ok settled → ∀ (label : Label) (capture : Option (List Char)),
        .reference (label.1.map .char) capture ∈ Piece.read settled.toList →
          let name := String.ofList label.1
          name ∈ reported ∨ name ∈ scope.names ∨
            name ∈ Action.bound
              (settleActions engine.toSources engine.passes.toNat text.toList start) := by
  intro resolved reported start ended
  have isEnded : ended = _ := Run.result_resolve engine text scope s
  obtain ⟨once, noScopeName⟩ := reported_of_resolve engine.toSources engine.passes text scope s.world
  refine ⟨by rw [isEnded], ?_, once, noScopeName, ?_⟩
  · rw [isEnded]
    exact congrArg (s.journal ++ ·) (List.map_map ..)
  · intro settled returned label capture isPiece
    rw [isEnded] at returned
    have comes : resolved.outcome = .ok settled := by
      change resolved.outcome.mapError Fault.template = .ok settled at returned
      rcases outcome : resolved.outcome with fault | other
      · rw [outcome] at returned
        cases returned
      · rw [outcome] at returned
        cases returned
        rfl
    exact named_of_resolve comes isPiece

theorem resolve_reports_again :
    let text := "${name}${pet}${>kept} ${kept}${@tee|last|!}${name}"
    let scope := Scope.ofPairs [("pet", "owl")]
    let report : Unbound := ⟨"name", "${name}", ["pet"]⟩
    let s : Session Unit := ⟨[], [warning report], ()⟩
    let ended := result (Run.resolve deafEngine text scope) s
    let settled := "${name}owl owl!${name}"
    (ended.1 = .ok settled ∧
        .reference ("name".toList.map .char) none ∈ Piece.read settled.toList) ∧
      ended.2.journal = [warning report, warning report] ∧
      "name" ∈ (resolve stillSources 100 text scope ()).unbound.map Unbound.name := by
  intro text scope report s ended settled
  obtain ⟨isEnded, journal, _, _, complete⟩ := resolve_reports deafEngine text scope s
  have outcome : (resolve stillSources 100 text scope ()).outcome = .ok settled := by decide +kernel
  have unbound : (resolve stillSources 100 text scope ()).unbound = [report] := by decide +kernel
  change ended.1 = (resolve stillSources 100 text scope ()).outcome.mapError _ at isEnded
  change ended.2.journal = _ ++ (resolve stillSources 100 text scope ()).unbound.map _ at journal
  rw [outcome] at isEnded
  rw [unbound] at journal
  let label : Label := ⟨"name".toList, .inr (by decide)⟩
  have isPiece : .reference (label.1.map .char) none ∈ Piece.read settled.toList := by
    let tokens : List Token := [.reference label, .literal ⟨"owl owl!".toList, by decide⟩,
      .reference label]
    have written : settled.toList = Token.writeAll tokens := by decide
    rw [written, Token.read_writeAll]
    exact List.mem_cons_self
  have captured : Action.bound (settleActions stillSources 100 text.toList ⟨scope, [], ()⟩) =
      ["kept", "last"] := by decide +kernel
  refine ⟨⟨isEnded, isPiece⟩, journal, ?_⟩
  rcases complete settled isEnded label none isPiece with isReported | isName | isCaptured
  · exact isReported
  · revert isName
    decide
  · change _ ∈ Action.bound (settleActions stillSources 100 text.toList ⟨scope, [], ()⟩)
      at isCaptured
    rw [captured] at isCaptured
    revert isCaptured
    decide

end PromptTree.Workflow
