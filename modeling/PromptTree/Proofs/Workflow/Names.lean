import Mathlib
import PromptTree.Proofs.Scope.Names
import PromptTree.Proofs.Template.Expansion
import PromptTree.Proofs.Workflow.Generation
import PromptTree.Proofs.Workflow.Tree

/-!
The names that a run works with. Nothing that a step does takes a name out of its scope or moves one,
and what it binds itself stays bound: fixed variables, downloads, answers and children only write
over the scope they are given. Main statement: if no step of a tree returns anything of its own, what
a run returns is a scope that begins with the names it was given and has every name that a step of
the tree binds (`run_keeps_names`).
-/

namespace PromptTree

/-- The names of the variables that a step binds itself, without a backend. -/
def Step.boundNames (step : Step) : List String :=
  step.fixedVariables.map Prod.fst ++ step.downloads.map Download.name

namespace Projected

theorem toScope?_ofScope (scope : Scope) : (ofScope scope).toScope? = some scope := by
  rw [ofScope, toScope?, List.map_map]
  have pairs := congrArg Scope.ofPairs (List.map_id' scope.entries)
  exact congrArg some (pairs.trans (Scope.ofPairs_entries scope))

end Projected

namespace Workflow

open Run

variable {β : Type} {engine : Engine β} {s t : Session β}

/-! ### The parts of a step -/

theorem map_fst_of_resolveAll {scope : Scope} {pairs resolved : List (String × String)}
    (ended : result (resolveAll engine scope pairs) s = (.ok resolved, t)) :
    resolved.map Prod.fst = pairs.map Prod.fst := by
  induction pairs generalizing resolved s with
  | nil =>
    cases ended
    rfl
  | cons pair pairs inductionHypothesis =>
    obtain ⟨text, _, _, ended⟩ := result_bind_eq_ok_iff.mp ended
    obtain ⟨rest, _, resolvedRest, ended⟩ := result_bind_eq_ok_iff.mp ended
    cases ended
    rw [List.map_cons, List.map_cons, inductionHypothesis resolvedRest]

theorem names_of_bindFixed {step : Step} {scope bound : Scope}
    (ended : result (bindFixed engine step scope) s = (.ok bound, t)) :
    bound.names = (scope.writeAll step.fixedVariables).names := by
  obtain ⟨resolved, _, allResolved, ended⟩ := result_bind_eq_ok_iff.mp ended
  cases ended
  have sameNames := map_fst_of_resolveAll allResolved
  rw [Scope.names_ofPairs (sameNames ▸ (scope.writeAll step.fixedVariables).nodup), sameNames]
  rfl

/-- A download is written over the scope that it is made on. -/
theorem exists_write_of_bindDownload {d : Download} {scope working : Scope}
    (ended : result (bindDownload engine d scope) s = (.ok working, t)) :
    ∃ text, working = scope.write d.name text := by
  obtain ⟨locator, _, _, ended⟩ := result_bind_eq_ok_iff.mp ended
  obtain ⟨page, _, _, ended⟩ := result_bind_eq_ok_iff.mp ended
  dsimp only at ended
  split at ended
  · cases ended
    exact ⟨_, rfl⟩
  · cases ended

theorem names_of_bindDownloads {ds : List Download} {scope working : Scope}
    (ended : result (bindDownloads engine ds scope) s = (.ok working, t)) :
    scope.names <+: working.names ∧ ∀ d ∈ ds, d.name ∈ working.names := by
  induction ds generalizing scope s with
  | nil =>
    cases ended
    exact ⟨List.prefix_rfl, by simp⟩
  | cons d ds inductionHypothesis =>
    obtain ⟨first, _, downloaded, ended⟩ := result_bind_eq_ok_iff.mp ended
    obtain ⟨text, rfl⟩ := exists_write_of_bindDownload downloaded
    obtain ⟨kept, bound⟩ := inductionHypothesis ended
    refine ⟨(Scope.names_prefix_write scope d.name text).trans kept, ?_⟩
    exact List.forall_mem_cons.mpr ⟨kept.subset (Scope.mem_names_write _ _ _), bound⟩

theorem merge_of_askOver {step : Step} {prompt : String} {scope : Scope} {answered : Value × Scope}
    (ended : result (askOver engine step prompt scope) s = (.ok answered, t)) :
    ∃ entries, answered.1 = .map entries ∧ scope.merge entries = .ok answered.2 := by
  obtain ⟨answer, _, _, ended⟩ := result_bind_eq_ok_iff.mp ended
  cases answer with
  | map entries => exact ⟨entries, taken_of_writeAnswer ended⟩
  | _ => cases ended

section Check

variable {check : Scope → Run β (Option Rejection)}

theorem names_of_attempt {step : Step} {template : String} {left made : Nat} {scope : Scope}
    {tried : Attempt}
    (ended : result (attempt engine step template check left made scope) s = (.ok tried, t)) :
    scope.names <+: tried.candidate.names := by
  obtain ⟨_, _, _, ended⟩ := result_bind_eq_ok_iff.mp ended
  obtain ⟨prompt, _, _, ended⟩ := result_bind_eq_ok_iff.mp ended
  obtain ⟨answered, _, asked, ended⟩ := result_bind_eq_ok_iff.mp ended
  obtain ⟨rejection, _, _, ended⟩ := result_bind_eq_ok_iff.mp ended
  obtain ⟨_, _, _, ended⟩ := result_bind_eq_ok_iff.mp ended
  cases ended
  obtain ⟨entries, _, merged⟩ := merge_of_askOver asked
  exact Scope.names_prefix_merge merged

/-- Every attempt is made on top of the one before, so the names are kept over any number of them. -/
theorem names_of_attempts {step : Step} {template : String} {left made : Nat}
    {scope accepted : Scope} {last : Option Rejection}
    (ended : result (attempts engine step template check left made scope last) s =
      (.ok accepted, t)) :
    scope.names <+: accepted.names := by
  induction left generalizing made scope last s with
  | zero =>
    obtain ⟨_, _, _, ended⟩ := result_bind_eq_ok_iff.mp ended
    cases ended
  | succ left inductionHypothesis =>
    rw [result_attempts_succ] at ended
    obtain ⟨tried, _, triedFirst, ended⟩ := result_bind_eq_ok_iff.mp ended
    have kept := names_of_attempt triedFirst
    split at ended
    · cases ended
      exact kept
    · exact kept.trans (inductionHypothesis ended)

/-- What a step does before its children keeps the names of its scope and binds its own. -/
theorem names_of_perform {step : Step} {scope working : Scope}
    (ended : result (perform engine step check scope) s = (.ok working, t)) :
    scope.names <+: working.names ∧ step.boundNames ⊆ working.names := by
  obtain ⟨fixed, _, bound, ended⟩ := result_bind_eq_ok_iff.mp ended
  obtain ⟨downloaded, _, allDownloaded, ended⟩ := result_bind_eq_ok_iff.mp ended
  obtain ⟨keptByDownloads, downloads⟩ := names_of_bindDownloads allDownloaded
  have keptByPrompt : downloaded.names <+: working.names := by
    split at ended
    · cases ended
      exact List.prefix_rfl
    · exact names_of_attempts ended
  have fixedNames := names_of_bindFixed bound
  have keptAfterwards := keptByDownloads.trans keptByPrompt
  constructor
  · have keptByFixed := Scope.names_prefix_writeAll scope step.fixedVariables
    rw [← fixedNames] at keptByFixed
    exact keptByFixed.trans keptAfterwards
  · rw [Step.boundNames, List.append_subset]
    constructor
    · rintro name isName
      obtain ⟨pair, isPair, rfl⟩ := List.mem_map.mp isName
      have written := Scope.mem_names_writeAll scope isPair
      rw [← fixedNames] at written
      exact keptAfterwards.subset written
    · rintro name isName
      obtain ⟨d, isDownload, rfl⟩ := List.mem_map.mp isName
      exact keptByPrompt.subset (downloads d isDownload)

end Check

/-! ### Whole trees -/

/-- Whatever the run of the step returns is a scope that has the names that were there before, in
their order, and those that a step of the tree binds. -/
def KeepsNames (engine : Engine β) (step : Step) : Prop :=
  ∀ scope s t value, result (run engine step scope) s = (.ok value, t) →
    ∃ kept : Scope, value = .ofScope kept ∧ scope.names <+: kept.names ∧
      ∀ node ∈ step.nodes, node.boundNames ⊆ kept.names

theorem names_of_runChildren {step : Step} {children : List Step}
    (keep : ∀ child ∈ children, KeepsNames engine child) {working : Scope} {value : Projected}
    (ended : result (runChildren engine step (.ofScope working) children) s = (.ok value, t)) :
    ∃ kept : Scope, value = .ofScope kept ∧ working.names <+: kept.names ∧
      ∀ child ∈ children, ∀ node ∈ child.nodes, node.boundNames ⊆ kept.names := by
  induction children generalizing working s with
  | nil =>
    cases ended
    exact ⟨working, rfl, List.prefix_rfl, by simp⟩
  | cons child children inductionHypothesis =>
    rw [List.forall_mem_cons] at keep
    obtain ⟨scope, _, found, ended⟩ := result_bind_eq_ok_iff.mp ended
    obtain ⟨returned, _, childEnded, ended⟩ := result_bind_eq_ok_iff.mp ended
    unfold scopeFor at found
    rw [Projected.toScope?_ofScope] at found
    cases found
    obtain ⟨after, rfl, keptByChild, boundByChild⟩ := keep.1 _ _ _ _ childEnded
    obtain ⟨kept, rfl, keptLater, boundLater⟩ := inductionHypothesis keep.2 ended
    refine ⟨kept, rfl, keptByChild.trans keptLater, List.forall_mem_cons.mpr ⟨?_, boundLater⟩⟩
    intro node isNode
    exact List.Subset.trans (boundByChild node isNode) keptLater.subset

theorem keepsNames_of_unprojected (step : Step)
    (unprojected : ∀ node ∈ step.nodes, node.returns = none) : KeepsNames engine step := by
  induction step using Step.byChildren with
  | hereditary step inductionHypothesis =>
    intro scope s t value ended
    obtain ⟨returnsNothing, childrenUnprojected⟩ := Step.forall_nodes_iff.mp unprojected
    rw [run_eq, returnsNothing] at ended
    obtain ⟨working, _, performed, ended⟩ := result_bind_eq_ok_iff.mp ended
    obtain ⟨last, _, childrenEnded, ended⟩ := result_bind_eq_ok_iff.mp ended
    cases ended
    obtain ⟨keptByStep, bound⟩ := names_of_perform performed
    obtain ⟨kept, rfl, keptByChildren, boundByChildren⟩ := names_of_runChildren
      (fun child isChild => inductionHypothesis child isChild (childrenUnprojected child isChild))
      childrenEnded
    refine ⟨kept, rfl, keptByStep.trans keptByChildren, Step.forall_nodes_iff.mpr ⟨?_, ?_⟩⟩
    · exact List.Subset.trans bound keptByChildren.subset
    · exact boundByChildren

/-- If no step of a tree returns anything of its own, then whatever comes of its answers and pages,
a run that returns does so with a scope. This has the names that the run was given first, none lost
and none moved, and it has every name that a step of the tree binds. -/
theorem run_keeps_names (engine : Engine β) (step : Step) (scope : Scope) (s : Session β)
    (value : Projected) (unprojected : ∀ node ∈ step.nodes, node.returns = none)
    (returned : (result (run engine step scope) s).1 = .ok value) :
    ∃ kept : Scope, value = .ofScope kept ∧ scope.names <+: kept.names ∧
      ∀ node ∈ step.nodes, node.boundNames ⊆ kept.names :=
  keepsNames_of_unprojected step unprojected scope s _ value (Prod.ext returned rfl)

def owlEngine : Engine Unit where
  toSources := Template.stillSources
  generate _ _ _ _ :=
    ⟨.ok (.map (Entries.ofFields [("title", .text "Owls"), ("mood", .text "calm")])), [], ()⟩
  fetch _ _ := ⟨.ok "hoot", [], ()⟩
  selector := "owl"
  passes := Template.defaultPasses
  retry := .default

/-- A step that binds and downloads, with a child that binds and asks. -/
def owlTree : Step :=
  ⟨"parent", none, [.fixed "topic" "owls", .download ⟨"page", "here", .none, none⟩], [],
    none, [⟨"child", some "A title?",
      [.fixed "mood" "grave", .generated ⟨"title", none, true, []⟩], [], none, []⟩]⟩

theorem run_keeps_names_owlTree :
    (∀ node ∈ owlTree.nodes, node.returns = none) ∧
      ∃ value, (result (run owlEngine owlTree (.ofPairs [("place", "York")])) (.start ())).1 =
          .ok value ∧
        ∃ kept : Scope, value = .ofScope kept ∧ ["place"] <+: kept.names ∧
          ∀ node ∈ owlTree.nodes, node.boundNames ⊆ kept.names := by
  have unprojected : ∀ node ∈ owlTree.nodes, node.returns = none := by
    simp [owlTree, Step.nodes, Step.nodesOf]
  have returned : (result (run owlEngine owlTree (.ofPairs [("place", "York")])) (.start ())).1 =
      .ok (.ofScope (.ofPairs [("place", "York"), ("topic", "owls"), ("page", "hoot"),
        ("mood", "calm"), ("title", "Owls")])) := by
    cbv
  exact ⟨unprojected, _, returned,
    run_keeps_names owlEngine owlTree _ (.start ()) _ unprojected returned⟩

end Workflow

end PromptTree
