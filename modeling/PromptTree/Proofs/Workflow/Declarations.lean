import PromptTree.Proofs.Scope.Merge
import PromptTree.Proofs.Workflow.Constraint
import PromptTree.Proofs.Workflow.Downloads
import PromptTree.Proofs.Workflow.Names

/-!
Several declarations of one name in a step. A step takes the kinds of its variables one after the
other: the fixed ones, then the downloads, then what the backend fills in. So the last declaration of
a name counts among those of its kind (`Step.LastOfKind`), and between kinds the later kind counts,
wherever its declarations are written. Main statements: it is not the last declaration of all that
counts (`not_last_declaration_counts`); a step runs as it does if each kind is settled on its own and
the kinds are put in order, and a name comes to the prompt with what its last download is made into,
or else with what its last template comes to (`run_settled`).
-/

namespace PromptTree

inductive Declaration.Kind where
  | fixed
  | download
  | generated
deriving DecidableEq, Repr

namespace Declaration

def kind : Declaration → Kind
  | fixed _ _ => .fixed
  | download _ => .download
  | generated _ => .generated

/-- The declarations that no later one of the same name follows, whatever its kind. -/
def lastOf : List Declaration → List Declaration
  | [] => []
  | d :: ds => if ds.any (·.name == d.name) then lastOf ds else d :: lastOf ds

end Declaration

namespace Generated

theorem lastOf_eq_self {gs : List Generated} (nodup : (gs.map (·.name)).Nodup) : lastOf gs = gs := by
  induction gs with
  | nil => rfl
  | cons g gs inductionHypothesis =>
    rw [List.map_cons, List.nodup_cons] at nodup
    have isLast : ¬ gs.any (·.name == g.name) = true := by
      intro isName
      obtain ⟨other, isOther, same⟩ := List.any_eq_true.mp isName
      exact nodup.1 (List.mem_map.mpr ⟨other, isOther, by simpa using same⟩)
    rw [lastOf, if_neg isLast, inductionHypothesis nodup.2]

theorem mem_lastOf_of_last {g : Generated} (before : List Generated) {after : List Generated}
    (last : ∀ later ∈ after, later.name ≠ g.name) : g ∈ lastOf (before ++ g :: after) := by
  induction before with
  | nil =>
    have isLast : ¬ after.any (·.name == g.name) = true := by simpa using last
    rw [List.nil_append, lastOf, if_neg isLast]
    exact List.mem_cons_self
  | cons other before inductionHypothesis =>
    rw [List.cons_append, lastOf]
    split
    · exact inductionHypothesis
    · exact List.mem_cons_of_mem _ inductionHypothesis

end Generated

namespace Step

/-- The declaration is the last one of its kind that has its name. -/
def LastOfKind (step : Step) (d : Declaration) : Prop :=
  ∃ before after, step.declarations = before ++ d :: after ∧
    ∀ later ∈ after, later.kind = d.kind → later.name ≠ d.name

def declaring (step : Step) (declarations : List Declaration) : Step :=
  { step with declarations }

/-- The step with its kinds in order: every fixed variable once, where its name stands first and with
its last template, then all downloads, then every variable that the backend fills in once, where its
name stands last. -/
def settled (step : Step) : Step :=
  step.declaring
    ((Scope.ofPairs step.fixedVariables).entries.map (fun (name, template) => .fixed name template) ++
      step.downloads.map .download ++ step.generatedVariables.map .generated)

theorem fixedVariables_settled (step : Step) :
    step.settled.fixedVariables = (Scope.ofPairs step.fixedVariables).entries := by
  simp [settled, declaring, fixedVariables, List.filterMap_append, List.filterMap_map]

theorem downloads_settled (step : Step) : step.settled.downloads = step.downloads := by
  simp [settled, declaring, downloads, List.filterMap_append, List.filterMap_map]

theorem generatedVariables_settled (step : Step) :
    step.settled.generatedVariables = step.generatedVariables := by
  have once : Generated.lastOf step.generatedVariables = step.generatedVariables :=
    Generated.lastOf_eq_self (Generated.nodup_lastOf _)
  rw [generatedVariables, settled, declaring]
  simp [List.filterMap_append, List.filterMap_map, once]

/-- Among what is selected of its kind, the last declaration is followed by none of its name. -/
theorem LastOfKind.exists_split {α : Type} {step : Step} {d : Declaration} {a : α}
    {select : Declaration → Option α} {selection : List α} (isLast : step.LastOfKind d)
    (selected : step.declarations.filterMap select = selection) (nameOf : α → String)
    (chosen : select d = some a)
    (reads : ∀ other b, select other = some b → other.kind = d.kind ∧ other.name = nameOf b) :
    ∃ before after, selection = before ++ a :: after ∧ ∀ later ∈ after, nameOf later ≠ nameOf a := by
  obtain ⟨before, after, declared, last⟩ := isLast
  refine ⟨before.filterMap select, after.filterMap select, ?_, ?_⟩
  · rw [← selected, declared, List.filterMap_append, List.filterMap_cons_some chosen]
  · intro b isLater
    obtain ⟨later, isDeclared, chosenLater⟩ := List.mem_filterMap.mp isLater
    obtain ⟨sameKind, laterName⟩ := reads later b chosenLater
    rw [← laterName, ← (reads d a chosen).2]
    exact last later isDeclared sameKind

theorem LastOfKind.fixed {step : Step} {name template : String}
    (isLast : step.LastOfKind (.fixed name template)) :
    ∃ before after, step.fixedVariables = before ++ (name, template) :: after ∧
      name ∉ after.map Prod.fst := by
  unfold fixedVariables
  generalize selected : step.declarations.filterMap _ = selection
  obtain ⟨before, after, declared, last⟩ := isLast.exists_split selected Prod.fst rfl
    (by rintro (_ | _ | _) _ ⟨⟩; exact ⟨rfl, rfl⟩)
  refine ⟨before, after, declared, ?_⟩
  intro isName
  obtain ⟨later, isLater, same⟩ := List.mem_map.mp isName
  exact last later isLater same

theorem LastOfKind.download {step : Step} {d : Download} (isLast : step.LastOfKind (.download d)) :
    ∃ before after, step.downloads = before ++ d :: after ∧
      ∀ later ∈ after, later.name ≠ d.name := by
  unfold downloads
  generalize selected : step.declarations.filterMap _ = selection
  exact isLast.exists_split selected Download.name rfl
    (by rintro (_ | _ | _) _ ⟨⟩; exact ⟨rfl, rfl⟩)

theorem LastOfKind.generated {step : Step} {g : Generated}
    (isLast : step.LastOfKind (.generated g)) : g ∈ step.generatedVariables := by
  unfold generatedVariables
  generalize selected : step.declarations.filterMap _ = selection
  obtain ⟨before, after, rfl, last⟩ := isLast.exists_split selected Generated.name rfl
    (by rintro (_ | _ | _) _ ⟨⟩; exact ⟨rfl, rfl⟩)
  exact Generated.mem_lastOf_of_last before last

end Step

theorem Projected.ok_ofScope_ne {ε : Type} {a b : Scope} (different : a ≠ b) :
    (.ok (.ofScope a) : Except ε Projected) ≠ .ok (.ofScope b) := by
  intro same
  have sameScope := congrArg Projected.toScope? (Except.ok.inj same)
  rw [toScope?_ofScope, toScope?_ofScope] at sameScope
  exact different (Option.some.inj sameScope)

namespace Workflow

open Run

variable {β : Type} {engine : Engine β} {s t : Session β}

/-! ### Steps with the same variables -/

section SameVariables

variable {step : Step} {declarations : List Declaration}

theorem runChildren_declaring (value : Projected) (children : List Step) :
    runChildren engine (step.declaring declarations) value children =
      runChildren engine step value children := by
  induction children generalizing value with
  | nil => rfl
  | cons child children inductionHypothesis =>
    unfold runChildren
    simp only [inductionHypothesis]
    rfl

variable
  (sameGenerated : (step.declaring declarations).generatedVariables = step.generatedVariables)

include sameGenerated

theorem attempt_declaring (template : String) (check : Scope → Run β (Option Rejection))
    (left made : Nat) (scope : Scope) :
    attempt engine (step.declaring declarations) template check left made scope =
      attempt engine step template check left made scope := by
  unfold attempt askOver
  rw [sameGenerated]
  rfl

theorem attempts_declaring (template : String) (check : Scope → Run β (Option Rejection))
    (left made : Nat) (scope : Scope) (last : Option Rejection) :
    attempts engine (step.declaring declarations) template check left made scope last =
      attempts engine step template check left made scope last := by
  induction left generalizing made scope last with
  | zero => rfl
  | succ left inductionHypothesis =>
    unfold attempts
    simp only [attempt_declaring sameGenerated, inductionHypothesis]

theorem validate_declaring :
    validate engine (step.declaring declarations) = validate engine step := by
  funext scope
  unfold validate checkAnswer
  rw [sameGenerated]
  rfl

theorem perform_declaring
    (sameFixed : ∀ scope : Scope,
      scope.writeAll (step.declaring declarations).fixedVariables =
        scope.writeAll step.fixedVariables)
    (sameDownloads : (step.declaring declarations).downloads = step.downloads)
    (check : Scope → Run β (Option Rejection)) (scope : Scope) :
    perform engine (step.declaring declarations) check scope = perform engine step check scope := by
  unfold perform bindFixed generate
  simp only [sameFixed, sameDownloads, attempts_declaring sameGenerated]
  rfl

theorem run_declaring
    (sameFixed : ∀ scope : Scope,
      scope.writeAll (step.declaring declarations).fixedVariables =
        scope.writeAll step.fixedVariables)
    (sameDownloads : (step.declaring declarations).downloads = step.downloads) (scope : Scope) :
    run engine (step.declaring declarations) scope = run engine step scope := by
  -- Beyond the step's own part, a run reads the step only for the children, the projection and labels,
  -- none of which the declarations are part of.
  rw [run_eq, run_eq, validate_declaring sameGenerated,
    perform_declaring sameGenerated sameFixed sameDownloads]
  simp only [runChildren_declaring]
  rfl

end SameVariables

/-! ### What the names of a step come to -/

theorem lookup_of_resolveAll {scope : Scope} {pairs resolved : List (String × String)}
    {name template : String} (ended : result (resolveAll engine scope pairs) s = (.ok resolved, t))
    (holds : pairs.lookup name = some template) :
    ∃ begun text after, result (resolve engine template scope) begun = (.ok text, after) ∧
      resolved.lookup name = some text := by
  induction pairs generalizing resolved s with
  | nil => cases holds
  | cons pair pairs inductionHypothesis =>
    obtain ⟨text, u, resolvedFirst, ended⟩ := result_bind_eq_ok_iff.mp ended
    obtain ⟨rest, v, resolvedRest, ended⟩ := result_bind_eq_ok_iff.mp ended
    cases ended
    rw [List.lookup_cons] at holds ⊢
    cases same : name == pair.1 with
    | true =>
      rw [same] at holds
      cases holds
      exact ⟨s, text, u, resolvedFirst, rfl⟩
    | false =>
      rw [same] at holds
      exact inductionHypothesis resolvedRest holds

theorem get?_of_bindFixed {step : Step} {scope fixed : Scope} {name template : String}
    (isLast : step.LastOfKind (.fixed name template))
    (ended : result (bindFixed engine step scope) s = (.ok fixed, t)) :
    ∃ begun text after,
      result (resolve engine template (scope.writeAll step.fixedVariables)) begun =
          (.ok text, after) ∧
        fixed.get? name = some text := by
  obtain ⟨before, later, declared, last⟩ := isLast.fixed
  have holds : (scope.writeAll step.fixedVariables).get? name = some template := by
    rw [declared]
    exact Scope.get?_writeAll_of_last scope last
  obtain ⟨resolved, _, allResolved, ended⟩ := result_bind_eq_ok_iff.mp ended
  cases ended
  have distinct : (resolved.map Prod.fst).Nodup := by
    rw [map_fst_of_resolveAll allResolved]
    exact (scope.writeAll step.fixedVariables).nodup
  obtain ⟨begun, text, after, ended, isText⟩ := lookup_of_resolveAll allResolved holds
  refine ⟨begun, text, after, ended, ?_⟩
  rw [Scope.get?, Scope.entries_ofPairs distinct, isText]

theorem get?_of_bindDownloads {ds : List Download} {scope working : Scope} {name : String}
    (ended : result (bindDownloads engine ds scope) s = (.ok working, t))
    (absent : ∀ d ∈ ds, d.name ≠ name) : working.get? name = scope.get? name := by
  induction ds generalizing scope s with
  | nil =>
    cases ended
    rfl
  | cons d ds inductionHypothesis =>
    rw [List.forall_mem_cons] at absent
    obtain ⟨first, _, downloaded, ended⟩ := result_bind_eq_ok_iff.mp ended
    obtain ⟨text, rfl⟩ := exists_write_of_bindDownload downloaded
    rw [inductionHypothesis ended absent.2, Scope.get?_write, if_neg (Ne.symm absent.1)]

theorem get?_of_last_download {step : Step} {scope working : Scope} {d : Download}
    (isLast : step.LastOfKind (.download d))
    (ended : result (bindDownloads engine step.downloads scope) s = (.ok working, t)) :
    ∃ base begun text after,
      result (bindDownload engine d base) begun = (.ok (base.write d.name text), after) ∧
        working.get? d.name = some text := by
  obtain ⟨before, later, declared, last⟩ := isLast.download
  rw [declared, bindDownloads_append] at ended
  obtain ⟨base, begun, _, ended⟩ := result_bind_eq_ok_iff.mp ended
  obtain ⟨made, after, downloaded, ended⟩ := result_bind_eq_ok_iff.mp ended
  obtain ⟨text, rfl⟩ := exists_write_of_bindDownload downloaded
  refine ⟨base, begun, text, after, downloaded, ?_⟩
  rw [get?_of_bindDownloads ended last, Scope.get?_write, if_pos rfl]

/-- Every name has the text that the last declaration of its kind gives it: a name that is
downloaded has what its last download is made into, and one that is fixed and not downloaded has what
its last template comes to among the fixed variables. -/
structure HoldsLast (engine : Engine β) (step : Step) (scope working : Scope) : Prop where
  download : ∀ d, step.LastOfKind (.download d) →
    ∃ base begun text after,
      result (bindDownload engine d base) begun = (.ok (base.write d.name text), after) ∧
        working.get? d.name = some text
  fixed : ∀ name template, step.LastOfKind (.fixed name template) →
    (∀ d ∈ step.downloads, d.name ≠ name) →
    ∃ begun text after,
      result (resolve engine template (scope.writeAll step.fixedVariables)) begun =
          (.ok text, after) ∧
        working.get? name = some text

theorem holdsLast_of_bindDownloads {step : Step} {scope fixed working : Scope} {u : Session β}
    (bound : result (bindFixed engine step scope) s = (.ok fixed, t))
    (downloaded : result (bindDownloads engine step.downloads fixed) t = (.ok working, u)) :
    HoldsLast engine step scope working where
  download _ isLast := get?_of_last_download isLast downloaded
  fixed name template isLast onlyFixed := by
    rw [get?_of_bindDownloads downloaded onlyFixed]
    exact get?_of_bindFixed isLast bound

/-- A step runs as it does if its kinds are settled and put in order. When it has bound its fixed
variables and its downloads, each name has the text of the last declaration of its kind; what the
backend fills in is asked for by the last declaration of the kind, and the answer, if it has the name,
takes the place of what any other declaration has given it. -/
theorem run_settled (engine : Engine β) (step : Step) (scope : Scope) (s : Session β) :
    run engine step.settled scope = run engine step scope ∧
      (∀ fixed working t u, result (bindFixed engine step scope) s = (.ok fixed, t) →
        result (bindDownloads engine step.downloads fixed) t = (.ok working, u) →
        HoldsLast engine step scope working) ∧
      ∀ g, step.LastOfKind (.generated g) →
        g ∈ step.generatedVariables ∧
          ∀ prompt base (answer : Entries) candidate begun after,
            result (askOver engine step prompt base) begun =
              (.ok (.map answer, candidate), after) →
            (∃ text, candidate.get? g.name = some text ∧ answer.Gives g.name text) ∨
              (candidate.get? g.name = base.get? g.name ∧ answer.Leaves g.name) := by
  have sameFixed (scope : Scope) :
      scope.writeAll step.settled.fixedVariables = scope.writeAll step.fixedVariables := by
    rw [step.fixedVariables_settled, Scope.writeAll_ofPairs]
  refine ⟨?_, ?_, ?_⟩
  · exact run_declaring step.generatedVariables_settled sameFixed step.downloads_settled scope
  · intro fixed working t u bound downloaded
    exact holdsLast_of_bindDownloads bound downloaded
  · intro g isLast
    refine ⟨isLast.generated, ?_⟩
    intro prompt base answer candidate begun after asked
    obtain ⟨entries, ⟨⟩, merged⟩ := merge_of_askOver asked
    exact Scope.get?_merge merged g.name

def owlStep : Step :=
  ⟨"owls", some "A title?",
    [.fixed "topic" "bats", .generated ⟨"title", none, false, []⟩,
      .download ⟨"page", "here", .none, none⟩, .generated ⟨"title", none, true, []⟩,
      .download ⟨"page", "here", .none, some 2⟩, .fixed "page" "at hand",
      .fixed "topic" "owls"], [], none, []⟩

theorem run_settled_owlStep :
    ∃ (working candidate : Scope) (answer : Entries) (u w : Session Unit),
      run owlEngine owlStep.settled .empty = run owlEngine owlStep .empty ∧
        result (bindFixed owlEngine owlStep .empty) (.start ()) =
          (.ok (.ofPairs [("topic", "owls"), ("page", "at hand")]), .start ()) ∧
        result (bindDownloads owlEngine owlStep.downloads
          (.ofPairs [("topic", "owls"), ("page", "at hand")])) (.start ()) = (.ok working, u) ∧
        HoldsLast owlEngine owlStep .empty working ∧
        owlStep.LastOfKind (.generated ⟨"title", none, true, []⟩) ∧
        ⟨"title", none, true, []⟩ ∈ owlStep.generatedVariables ∧
        result (askOver owlEngine owlStep "A title?" working) (.start ()) =
          (.ok (.map answer, candidate), w) ∧
        ((∃ text, candidate.get? "title" = some text ∧ answer.Gives "title" text) ∨
          (candidate.get? "title" = working.get? "title" ∧ answer.Leaves "title")) := by
  have bound : result (bindFixed owlEngine owlStep .empty) (.start ()) =
      (.ok (.ofPairs [("topic", "owls"), ("page", "at hand")]), .start ()) := by cbv
  have downloaded : (result (bindDownloads owlEngine owlStep.downloads
      (.ofPairs [("topic", "owls"), ("page", "at hand")])) (.start ())).1 =
        .ok (.ofPairs [("topic", "owls"), ("page", "ho")]) := by cbv
  have asked : (result (askOver owlEngine owlStep "A title?"
      (.ofPairs [("topic", "owls"), ("page", "ho")])) (.start ())).1 =
        .ok (.map (Entries.ofFields [("title", .text "Owls"), ("mood", .text "calm")]),
          .ofPairs [("topic", "owls"), ("page", "ho"), ("title", "Owls"), ("mood", "calm")]) := by
    cbv
  have isLast : owlStep.LastOfKind (.generated ⟨"title", none, true, []⟩) :=
    ⟨owlStep.declarations.take 3, owlStep.declarations.drop 4, rfl, by decide⟩
  obtain ⟨sameRun, holds, fills⟩ := run_settled owlEngine owlStep .empty (.start ())
  obtain ⟨isAskedFor, answers⟩ := fills _ isLast
  exact ⟨_, _, _, _, _, sameRun, bound, Prod.ext downloaded rfl,
    holds _ _ _ _ bound (Prod.ext downloaded rfl), isLast, isAskedFor, Prod.ext asked rfl,
    answers _ _ _ _ _ _ (Prod.ext asked rfl)⟩

def declaringStep (declarations : List Declaration) : Step :=
  ⟨"declares", none, declarations, [], none, []⟩

def outcomeOf (declarations : List Declaration) : Except Fault Projected :=
  (result (run numberingEngine (declaringStep declarations) .empty) (.start 0)).1

/-- It makes a difference to delete the declarations that a later one of the same name follows: a
download counts for more than a fixed value after it; a page that is not fetched is not there for
the number of the next; and a fixed variable keeps the place of its first declaration. -/
theorem not_last_declaration_counts :
    outcomeOf [.download (fromHere "x" none), .fixed "x" "at hand"] ≠
        outcomeOf (Declaration.lastOf [.download (fromHere "x" none), .fixed "x" "at hand"]) ∧
      outcomeOf [.download ⟨"x", "there", .none, none⟩, .download (fromHere "x" none)] ≠
        outcomeOf (Declaration.lastOf
          [.download ⟨"x", "there", .none, none⟩, .download (fromHere "x" none)]) ∧
      outcomeOf [.fixed "x" "old", .fixed "y" "other", .fixed "x" "new"] ≠
        outcomeOf (Declaration.lastOf [.fixed "x" "old", .fixed "y" "other", .fixed "x" "new"]) := by
  refine ⟨?downloadBeforeFixed, ?downloadTwice, ?fixedTwice⟩
  case downloadBeforeFixed =>
    have whole : outcomeOf [.download (fromHere "x" none), .fixed "x" "at hand"] =
        .ok (.ofScope (.ofPairs [("x", "page 0")])) := by cbv
    have deleted : outcomeOf
        (Declaration.lastOf [.download (fromHere "x" none), .fixed "x" "at hand"]) =
          .ok (.ofScope (.ofPairs [("x", "at hand")])) := by cbv
    rw [whole, deleted]
    exact Projected.ok_ofScope_ne (by decide)
  case downloadTwice =>
    have whole : outcomeOf [.download ⟨"x", "there", .none, none⟩, .download (fromHere "x" none)] =
        .ok (.ofScope (.ofPairs [("x", "page 1")])) := by cbv
    have deleted : outcomeOf (Declaration.lastOf
        [.download ⟨"x", "there", .none, none⟩, .download (fromHere "x" none)]) =
          .ok (.ofScope (.ofPairs [("x", "page 0")])) := by cbv
    rw [whole, deleted]
    exact Projected.ok_ofScope_ne (by decide)
  case fixedTwice =>
    have whole : outcomeOf [.fixed "x" "old", .fixed "y" "other", .fixed "x" "new"] =
        .ok (.ofScope (.ofPairs [("x", "new"), ("y", "other")])) := by cbv
    have deleted : outcomeOf
        (Declaration.lastOf [.fixed "x" "old", .fixed "y" "other", .fixed "x" "new"]) =
          .ok (.ofScope (.ofPairs [("y", "other"), ("x", "new")])) := by cbv
    rw [whole, deleted]
    exact Projected.ok_ofScope_ne (by decide)

end Workflow

end PromptTree
