import Mathlib
import PromptTree.Proofs.Template.Expansion
import PromptTree.Proofs.Workflow.Containment

/-!
Where the texts of downloaded variables come from. `ComesTo` says at which downloads the run of a
step arrives, and on top of which scope and in which session it makes them; `built` says what a page
comes to as the text of a variable. Pages that are kept stay kept until the end of a run
(`ComesTo.keeps`), so the download of a variable can be read off the end of the run. Main statement:
in each of several runs on one engine, no address is fetched twice, and every variable that is
downloaded from an address has its text from the one page that was fetched there in the same run
(`downloads_of_runs`).
-/

namespace PromptTree.Workflow

open Run

variable {β : Type}

/-- The run of a step on a scope comes to a download: at the step itself after its fixed variables
and the downloads before this one, or at one of its children after the children before it. What the
download is made on top of is given last, with the session. A step that asks for a verdict downloads
nothing. -/
inductive ComesTo (engine : Engine β) :
    Step → Scope → Session β → Download → Scope → Session β → Prop where
  | own {step : Step} {scope fixed working : Scope} {s t u : Session β} {download : Download}
      {before after : List Download} :
    result (bindFixed engine step scope) s = (.ok fixed, t) →
    step.downloads = before ++ download :: after →
    result (bindDownloads engine before fixed) t = (.ok working, u) →
    ComesTo engine step scope s download working u
  | child {step child : Step} {before after : List Step} {scope performed inner working : Scope}
      {value : Projected} {s t u v : Session β} {download : Download} :
    result (perform engine step (validate engine step) scope) s = (.ok performed, t) →
    step.children = before ++ child :: after →
    result (runChildren engine step (.ofScope performed) before) t = (.ok value, u) →
    value.toScope? = some inner →
    ComesTo engine child inner u download working v →
    ComesTo engine step scope s download working v

/-- What a page comes to as the text of a variable. What stands for a page that cannot be fetched is
not converted, and neither is a page that reads the same. -/
def built (download : Download) : Except String String → Except Html.Rejected String
  | .error _ => .ok (Html.Conversion.cut download.limit unknownPage)
  | .ok page =>
    if page = unknownPage then .ok (Html.Conversion.cut download.limit unknownPage)
    else (download.conversion.apply page).map (Html.Conversion.cut download.limit)

/-- The scope with the text of a downloaded variable written over it. -/
def written (download : Download) (working : Scope) (page : Except String String) :
    Except Fault Scope :=
  ((built download page).map (working.write download.name)).mapError .page

section

variable {engine : Engine β} {α γ : Type} {s t u : Session β}

/-! ### One download -/

/-- A page is kept from the moment that it is downloaded. -/
theorem exists_result_download (engine : Engine β) (locator : String) (s : Session β) :
    ∃ text t, result (download engine locator) s = (.ok text, t) ∧
      t.downloads.lookup locator = some text := by
  cases known : s.downloads.lookup locator with
  | some text => exact ⟨text, s, result_download_of_cached known, known⟩
  | none =>
    refine ⟨_, _, result_download_of_new known, ?_⟩
    simp [List.lookup_append, known]

theorem written_eq {download : Download} {working : Scope} {page : Except String String} :
    written download working page =
      match (if keptText page = unknownPage then .none else download.conversion).apply
        (keptText page) with
      | .ok text => .ok (working.write download.name (Html.Conversion.cut download.limit text))
      | .error rejected => .error (.page rejected) := by
  cases page with
  | error message => rfl
  | ok page =>
    by_cases unknown : page = unknownPage
    · subst unknown
      rfl
    · unfold written built keptText
      dsimp only
      rw [if_neg unknown, if_neg unknown]
      cases download.conversion.apply page <;> rfl

/-- A variable is built from the text that is kept for the address that its source comes to. -/
theorem result_bindDownload {d : Download} {working : Scope} {locator : String}
    (resolved : result (resolve engine d.source working) s = (.ok locator, t)) :
    ∃ text u, u.downloads.lookup locator = some text ∧
      (result (bindDownload engine d working) s).2 = u ∧
      ∀ page, keptText page = text →
        (result (bindDownload engine d working) s).1 = written d working page := by
  obtain ⟨text, u, downloaded, isKept⟩ := exists_result_download engine locator t
  have begun : result (bindDownload engine d working) s = _ :=
    (result_bind_of_ok resolved _).trans (result_bind_of_ok downloaded _)
  rw [begun]
  refine ⟨text, u, isKept, ?_, ?_⟩
  · dsimp only
    split <;> rfl
  · rintro page rfl
    rw [written_eq]
    dsimp only
    split <;> simp_all

/-! ### Pages stay kept -/

theorem Contained.keeps {stretch : Run β α} (contained : Contained engine α stretch)
    (s : Session β) : s.downloads <+: (result stretch s).2.downloads := by
  obtain ⟨turns, closes⟩ := contained s
  rw [closes.goes.downloads]
  exact List.prefix_append _ _

/-- What a stretch keeps is kept by everything that begins with it. -/
theorem keeps_bind (engine : Engine β) {stretch : Run β α} {next : α → Run β γ}
    (contained : ∀ a, Contained engine γ (next a)) (s : Session β) :
    (result stretch s).2.downloads <+: (result (stretch >>= next) s).2.downloads := by
  rw [result_bind]
  rcases result stretch s with ⟨fault | a, t⟩
  · exact List.prefix_rfl
  · exact (contained a).keeps t

theorem bindDownloads_append (before later : List Download) (scope : Scope) :
    bindDownloads engine (before ++ later) scope =
      bindDownloads engine before scope >>= bindDownloads engine later := by
  induction before generalizing scope with
  | nil => rfl
  | cons d before inductionHypothesis =>
    have unfolded (later : List Download) : bindDownloads engine (d :: later) scope =
      bindDownload engine d scope >>= bindDownloads engine later := rfl
    rw [List.cons_append, unfolded, unfolded, bind_assoc]
    exact bind_congr inductionHypothesis

theorem runChildren_append (step : Step) (value : Projected) (before later : List Step) :
    runChildren engine step value (before ++ later) =
      runChildren engine step value before >>= fun value =>
        runChildren engine step value later := by
  induction before generalizing value with
  | nil => rfl
  | cons child before inductionHypothesis =>
    have unfolded (later : List Step) : runChildren engine step value (child :: later) =
      scopeFor step child.label value >>= fun scope =>
        run engine child scope >>= fun value => runChildren engine step value later := rfl
    rw [List.cons_append, unfolded, unfolded, bind_assoc]
    apply bind_congr
    intro scope
    rw [bind_assoc]
    exact bind_congr inductionHypothesis

theorem scopeFor_of_toScope? {step : Step} {consumer : String} {value : Projected} {scope : Scope}
    (isScope : value.toScope? = some scope) :
    scopeFor (β := β) step consumer value = pure scope := by
  unfold scopeFor
  rw [isScope]

/-- What a download keeps is kept at the end of the run that comes to it. -/
theorem ComesTo.keeps {step : Step} {scope working : Scope} {download : Download}
    (comes : ComesTo engine step scope s download working u) :
    (result (bindDownload engine download working) u).2.downloads <+:
      (result (run engine step scope) s).2.downloads := by
  have parts := contained_parts engine
  induction comes with
  | @own step scope fixed working s t u download before after bound cut arrived =>
    rw [run_eq]
    refine .trans ?_ (keeps_bind engine (contained_finish fun child _ => contained_run child) s)
    unfold perform
    rw [result_bind_of_ok bound, cut, bindDownloads_append, bind_assoc, result_bind_of_ok arrived]
    refine .trans ?_ (keeps_bind engine (parts.prompted (parts.validate step) step) u)
    exact keeps_bind engine (parts.bindDownloads after) u
  | @child step child before after scope performed inner working value s t u v download ended cut
      arrived isScope _ inductionHypothesis =>
    rw [run_eq, result_bind_of_ok ended, cut, runChildren_append, bind_assoc,
      result_bind_of_ok arrived]
    refine .trans ?_ (keeps_bind engine (contained_return step) u)
    unfold runChildren
    rw [scopeFor_of_toScope? isScope, pure_bind]
    have later (value : Projected) : Contained engine _ (runChildren engine step value after) :=
      contained_runChildren (fun child _ => contained_run child) step value
    exact .trans inductionHypothesis (keeps_bind engine later u)

end

/-! ### Whole runs -/

/-- The session in which the root of a workflow is run: nothing has happened but that the run has
been announced. -/
def announced (engine : Engine β) (document : Document) (world : β) : Session β :=
  let name := if document.name.isEmpty then "<unnamed>" else document.name
  (Session.start world).after [.logged ⟨.run, .info,
    s!"[{runId}] Running workflow '{name}' with backend '{engine.selector}'"⟩]

def DocumentComesTo (engine : Engine β) (document : Document) (initial : Entries) (world : β)
    (download : Download) (working : Scope) (s : Session β) : Prop :=
  ∃ scope, document.context.merge initial = .ok scope ∧
    ComesTo engine document.root scope (announced engine document world) download working s

/-- Some runs of a workflow on one engine, one after the other, each with variables of its own and
in the world that the run before leaves: the variables and the world that each begins with. -/
def runsOf (engine : Engine β) (document : Document) : List Entries → β → List (Entries × β)
  | [], _ => []
  | initial :: later, world =>
    (initial, world) :: runsOf engine document later
      (result (runDocument engine document initial) (.start world)).2.world

theorem DocumentComesTo.keeps {engine : Engine β} {document : Document} {initial : Entries}
    {world : β} {s : Session β} {download : Download} {working : Scope}
    (comes : DocumentComesTo engine document initial world download working s) :
    (result (bindDownload engine download working) s).2.downloads <+:
      (result (runDocument engine document initial) (.start world)).2.downloads := by
  obtain ⟨scope, merged, comes⟩ := comes
  unfold runDocument
  rw [merged]
  dsimp only
  rw [result_bind_of_ok (result_log .info _ _)]
  exact .trans comes.keeps (keeps_bind engine contained_conclude _)

/-- However some runs on one engine go, one after the other, each of them goes by turns, and its
journal has the addresses of the pages that it fetched in these turns, no address twice. When the
run comes to a download, at whichever step, and the source of this comes to an address, then a page
was fetched from the address in one of the turns of the same run, and the variable is built from
this page, or from what stands for a page if there was none. -/
theorem downloads_of_runs (engine : Engine β) (document : Document) (inputs : List Entries)
    (world : β) :
    ∀ initial begun, (initial, begun) ∈ runsOf engine document inputs world →
      let ended := (result (runDocument engine document initial) (.start begun)).2
      ∃ (turns : List Turn) (page : String → Except String String),
        Goes engine (.start begun) turns ended ∧
          ended.journal.filterMap Event.locator? = locators turns ∧ (locators turns).Nodup ∧
          ∀ download working s, DocumentComesTo engine document initial begun download working s →
            ∀ locator t, result (resolve engine download.source working) s = (.ok locator, t) →
              .fetched locator (page locator) ∈ turns ∧
                (result (bindDownload engine download working) s).1 =
                  written download working (page locator) := by
  intro initial begun _ ended
  obtain ⟨turns, closes⟩ := contained_runDocument engine document initial (.start begun)
  have goes : Goes engine (.start begun) turns ended := closes.goes
  refine ⟨turns, pageAt turns, goes, goes.journal_locators, goes.nodup_locators, ?_⟩
  intro download working s comes locator t resolved
  obtain ⟨text, u, isKept, left, isBuilt⟩ := result_bindDownload resolved
  have stays := comes.keeps
  rw [left] at stays
  obtain ⟨isFetched, isText⟩ := goes.fetched_of_lookup (stays.lookup_eq_some isKept)
  exact ⟨isFetched, isBuilt _ isText⟩

/-- An engine whose pages are numbered in the order in which they are fetched. -/
def numberingEngine : Engine Nat where
  now number := ((Template.stillSources.now ()).1, number)
  choose _ number := (0, number)
  generate _ _ _ number := ⟨.error (.failed "no backend"), [], number⟩
  fetch _ number := ⟨.ok s!"page {number}", [], number + 1⟩
  selector := "none"
  passes := Template.defaultPasses
  retry := .default

def fromHere (name : String) (limit : Option Int) : Download := ⟨name, "here", .none, limit⟩

def twoDownloads : Document :=
  ⟨"twice", "1", "none", [], .empty, ⟨"root", none,
    [.download (fromHere "first" none), .download (fromHere "second" (some 3))], [], none, []⟩⟩

theorem downloads_of_runs_twice :
    ([], 1) ∈ runsOf numberingEngine twoDownloads [[], []] 0 ∧
      ∃ working s t,
        DocumentComesTo numberingEngine twoDownloads [] 1 (fromHere "second" (some 3)) working s ∧
          result (resolve numberingEngine "here" working) s = (.ok "here", t) ∧
          ∃ (turns : List Turn) (page : String → Except String String),
            (locators turns).Nodup ∧ .fetched "here" (page "here") ∈ turns ∧
              (result (bindDownload numberingEngine (fromHere "second" (some 3)) working) s).1 =
                written (fromHere "second" (some 3)) working (page "here") := by
  have again : (result (runDocument numberingEngine twoDownloads []) (.start 0)).2.world = 1 := by
    cbv
  have begun : ([], 1) ∈ runsOf numberingEngine twoDownloads [[], []] 0 := by
    simp [runsOf, again]
  have arrived : (result (bindDownloads numberingEngine [fromHere "first" none] .empty)
      (announced numberingEngine twoDownloads 1)).1 = .ok (Scope.empty.write "first" "page 1") := by
    cbv
  have declared : twoDownloads.root.downloads =
      [fromHere "first" none] ++ fromHere "second" (some 3) :: [] := rfl
  have comes : DocumentComesTo numberingEngine twoDownloads [] 1 (fromHere "second" (some 3))
      (Scope.empty.write "first" "page 1") _ :=
    ⟨.empty, rfl, .own rfl declared (Prod.ext arrived rfl)⟩
  have resolved (s : Session Nat) :
      (result (resolve numberingEngine "here" (Scope.empty.write "first" "page 1")) s).1 =
        .ok "here" := by
    cbv
  obtain ⟨turns, page, _, _, once, each⟩ :=
    downloads_of_runs numberingEngine twoDownloads [[], []] 0 [] 1 begun
  obtain ⟨isFetched, isBuilt⟩ := each _ _ _ comes "here" _ (Prod.ext (resolved _) rfl)
  exact ⟨begun, _, _, _, comes, Prod.ext (resolved _) rfl, turns, page, once, isFetched, isBuilt⟩

end PromptTree.Workflow
