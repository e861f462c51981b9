import PromptTree.Proofs.Workflow.Generation

/-!
What a run does with the world outside, turn by turn: it asks the backend, fetches a page, or gives
up on a step. `Takes` says how a session goes on by one turn, `Quiet` how it goes on between two of
them, and `Goes` how by any number; none of the three mentions a step's run. Main statements: the
questions and addresses in the journal are those of the turns (`Goes.contacts`), the pages that are
kept are those that the turns fetched (`Goes.downloads`), and no address is fetched twice
(`Goes.nodup_locators`).
-/

namespace PromptTree.Workflow

open Run

variable {β : Type}

/-- The event is a question to the backend or the fetching of a page. -/
def Event.isContact : Event → Bool
  | .asked .. | .fetched _ => true
  | .logged _ | .paused _ => false

def Event.locator? : Event → Option String
  | .fetched locator => some locator
  | .asked .. | .logged _ | .paused _ => none

inductive Turn where
  /-- The backend is asked, and this comes of it. -/
  | asked (prompt : String) (schema : Value) (outcome : Except Backend.Fault Value)
  /-- A page is fetched, and this comes of it. -/
  | fetched (locator : String) (outcome : Except String String)
  /-- A step of this label gives up after so many attempts. -/
  | gaveUp (step : String) (attempts : Nat) (last : Option Rejection)

namespace Turn

/-- The question or the address of a turn, as the journal has it. -/
def event? (engine : Engine β) : Turn → Option Event
  | asked prompt schema _ => some (.asked engine.selector prompt schema)
  | fetched locator _ => some (.fetched locator)
  | gaveUp .. => none

def page? : Turn → Option (String × Except String String)
  | fetched locator outcome => some (locator, outcome)
  | asked .. | gaveUp .. => none

end Turn

/-- The text that is kept of a page, whether or not there is one. -/
def keptText : Except String String → String
  | .ok text => text
  | .error _ => unknownPage

def pages (turns : List Turn) : List (String × Except String String) :=
  turns.filterMap Turn.page?

def locators (turns : List Turn) : List String :=
  (pages turns).map Prod.fst

section

variable (engine : Engine β) (s : Session β)

/-- The session goes on by one turn. A page is fetched only if none is kept for its address. -/
inductive Takes : Turn → Session β → Prop where
  | asked (prompt : String) (schema : Value) :
    Takes (.asked prompt schema (engine.generate engine.selector prompt schema s.world).outcome)
      (result (ask engine prompt schema) s).2
  | fetched {locator : String} :
    s.downloads.lookup locator = none →
    Takes (.fetched locator (engine.fetch locator s.world).outcome)
      (result (download engine locator) s).2
  | gaveUp (step : Step) (made : Nat) (last : Option Rejection) :
    Takes (.gaveUp step.label made last) (s.after [.logged (givingUp step made)])

/-- The session goes on without a turn: a template is resolved, a line is logged that reports no
error, or there is a pause. -/
inductive Quiet : Session β → Prop where
  | resolved (text : String) (scope : Scope) : Quiet (result (resolve engine text scope) s).2
  | logged (level : LogLevel) (message : String) :
    level ≠ .error → Quiet (result (log level message) s).2
  | paused (milliseconds : Int) : Quiet (s.after [.paused milliseconds])

/-- The session goes on by some turns, quietly before, between and after them. -/
inductive Goes : List Turn → Session β → Prop where
  | start : Goes [] s
  | quiet {turns : List Turn} {t u : Session β} : Goes turns t → Quiet engine t u → Goes turns u
  | turn {turns : List Turn} {turn : Turn} {t u : Session β} :
    Goes turns t → Takes engine t turn u → Goes (turns ++ [turn]) u

end

section

variable {engine : Engine β} {s t u : Session β} {turn : Turn} {turns : List Turn}

theorem Goes.trans {more : List Turn} (first : Goes engine s turns t)
    (second : Goes engine t more u) : Goes engine s (turns ++ more) u := by
  induction second with
  | start =>
    rw [List.append_nil]
    exact first
  | quiet _ quiet inductionHypothesis => exact inductionHypothesis.quiet quiet
  | turn _ taken inductionHypothesis =>
    rw [← List.append_assoc]
    exact inductionHypothesis.turn taken

/-! ### The journal -/

theorem filter_isContact_logged (lines : List LogEntry) :
    (lines.map Event.logged).filter Event.isContact = [] := by
  rw [List.filter_eq_nil_iff]
  intro event isEvent
  obtain ⟨line, _, rfl⟩ := List.mem_map.mp isEvent
  simp [Event.isContact]

theorem filter_isContact_fetchEvents (locator : String) (reply : Reply String String β) :
    (fetchEvents locator reply).filter Event.isContact = [.fetched locator] := by
  have atEnd (lines : List Event) (quiet : lines.filter Event.isContact = []) :
      (Event.fetched locator :: reply.log.map .logged ++ lines).filter Event.isContact =
        [.fetched locator] := by
    rw [List.filter_append, List.filter_cons_of_pos rfl, filter_isContact_logged, quiet]
    rfl
  unfold fetchEvents
  cases reply.outcome with
  | ok text => exact atEnd [] rfl
  | error message => exact atEnd [_] rfl

theorem Quiet.contacts (quiet : Quiet engine s t) :
    t.journal.filter Event.isContact = s.journal.filter Event.isContact := by
  cases quiet with
  | resolved text scope =>
    rw [result_resolve, Session.journal_after, List.filter_append, filter_isContact_logged,
      List.append_nil]
  | logged level message _ =>
    rw [result_log, Session.journal_after, List.filter_append]
    exact List.append_nil _
  | paused milliseconds =>
    rw [Session.journal_after, List.filter_append]
    exact List.append_nil _

theorem Takes.contacts (taken : Takes engine s turn t) :
    t.journal.filter Event.isContact =
      s.journal.filter Event.isContact ++ (turn.event? engine).toList := by
  cases taken with
  | asked prompt schema =>
    rw [result_ask, Session.journal_after, List.filter_append, List.filter_cons_of_pos rfl,
      filter_isContact_logged]
    rfl
  | fetched new =>
    rw [result_download_of_new new, Session.journal_after, List.filter_append,
      filter_isContact_fetchEvents]
    rfl
  | gaveUp step made last =>
    rw [Session.journal_after, List.filter_append]
    rfl

/-- The journal has the questions and addresses of the turns, in their order, and no others. -/
theorem Goes.contacts (goes : Goes engine s turns t) :
    t.journal.filter Event.isContact =
      s.journal.filter Event.isContact ++ turns.filterMap (Turn.event? engine) := by
  induction goes with
  | start => simp
  | quiet _ quiet inductionHypothesis => rw [quiet.contacts, inductionHypothesis]
  | turn _ taken inductionHypothesis =>
    rw [taken.contacts, inductionHypothesis, List.filterMap_append, List.append_assoc]
    rfl

theorem filterMap_locator_contacts (events : List Event) :
    (events.filter Event.isContact).filterMap Event.locator? =
      events.filterMap Event.locator? := by
  rw [List.filterMap_filter]
  congr 1
  funext event
  cases event <;> rfl

theorem filterMap_locator_event? (engine : Engine β) (turns : List Turn) :
    (turns.filterMap (Turn.event? engine)).filterMap Event.locator? = locators turns := by
  unfold locators pages
  rw [List.filterMap_filterMap, List.map_filterMap]
  congr 1
  funext turn
  cases turn <;> rfl

/-- The addresses in the journal of a run are those of its turns. -/
theorem Goes.journal_locators {world : β} (goes : Goes engine (.start world) turns t) :
    t.journal.filterMap Event.locator? = locators turns := by
  rw [← filterMap_locator_contacts, goes.contacts, ← filterMap_locator_event? engine]
  rfl

/-! ### The pages that are kept -/

theorem pages_append (turns more : List Turn) : pages (turns ++ more) = pages turns ++ pages more :=
  List.filterMap_append

theorem locators_append (turns more : List Turn) :
    locators (turns ++ more) = locators turns ++ locators more := by
  rw [locators, pages_append, List.map_append]
  rfl

theorem mem_pages_iff {locator : String} {outcome : Except String String} :
    (locator, outcome) ∈ pages turns ↔ .fetched locator outcome ∈ turns := by
  unfold pages
  rw [List.mem_filterMap]
  constructor
  · rintro ⟨turn, isTurn, isPage⟩
    cases turn with
    | fetched =>
      cases isPage
      exact isTurn
    | asked => cases isPage
    | gaveUp => cases isPage
  · intro isTurn
    exact ⟨_, isTurn, rfl⟩

def kept (pages : List (String × Except String String)) : List (String × String) :=
  pages.map fun (locator, outcome) => (locator, keptText outcome)

theorem fetchedText_eq (reply : Reply String String β) :
    fetchedText reply = keptText reply.outcome := by
  unfold fetchedText
  cases reply.outcome <;> rfl

theorem Quiet.downloads (quiet : Quiet engine s t) : t.downloads = s.downloads := by
  cases quiet with
  | resolved text scope =>
    rw [result_resolve]
    rfl
  | logged level message _ => rfl
  | paused milliseconds => rfl

theorem Takes.downloads (taken : Takes engine s turn t) :
    t.downloads = s.downloads ++ kept turn.page?.toList := by
  cases taken with
  | asked prompt schema =>
    rw [result_ask]
    exact (List.append_nil _).symm
  | fetched new =>
    rw [result_download_of_new new]
    dsimp only
    rw [fetchedText_eq]
    rfl
  | gaveUp step made last => exact (List.append_nil _).symm

/-- The pages that are kept are those that the turns fetched, in their order. -/
theorem Goes.downloads (goes : Goes engine s turns t) :
    t.downloads = s.downloads ++ kept (pages turns) := by
  induction goes with
  | start => exact (List.append_nil _).symm
  | quiet _ quiet inductionHypothesis => rw [quiet.downloads, inductionHypothesis]
  | @turn turns turn _ _ _ taken inductionHypothesis =>
    have last : pages [turn] = turn.page?.toList := by
      cases turn <;> rfl
    rw [taken.downloads, inductionHypothesis, pages_append, last, List.append_assoc, kept, kept,
      kept, List.map_append]

theorem Goes.downloads_start {world : β} (goes : Goes engine (.start world) turns t) :
    t.downloads = kept (pages turns) :=
  goes.downloads.trans (List.nil_append _)

theorem map_fst_kept (pages : List (String × Except String String)) :
    (kept pages).map Prod.fst = pages.map Prod.fst := by
  unfold kept
  rw [List.map_map]
  rfl

theorem not_mem_map_fst_of_lookup {known : List (String × String)} {locator : String}
    (new : known.lookup locator = none) : locator ∉ known.map Prod.fst := by
  intro isKnown
  obtain ⟨page, isPage, rfl⟩ := List.mem_map.mp isKnown
  have different := List.lookup_eq_none_iff.mp new page isPage
  simp at different

/-- A page is fetched only for an address for which none is kept, so no two addresses of a run are
the same. -/
theorem Goes.nodup_locators {world : β} (goes : Goes engine (.start world) turns t) :
    (locators turns).Nodup := by
  induction goes with
  | start => exact List.nodup_nil
  | quiet _ _ inductionHypothesis => exact inductionHypothesis
  | @turn turns _ _ _ before taken inductionHypothesis =>
    rw [locators_append]
    cases taken with
    | asked prompt schema => exact (List.append_nil _).symm ▸ inductionHypothesis
    | gaveUp step made last => exact (List.append_nil _).symm ▸ inductionHypothesis
    | @fetched locator new =>
      have unknown : locator ∉ locators turns := by
        rw [locators, ← map_fst_kept, ← before.downloads_start]
        exact not_mem_map_fst_of_lookup new
      rw [List.nodup_append]
      refine ⟨inductionHypothesis, by simp [locators, pages, Turn.page?], ?_⟩
      intro other isOther last isLast same
      obtain rfl : last = locator := List.mem_singleton.mp isLast
      exact unknown (same ▸ isOther)

theorem lookup_kept (pages : List (String × Except String String)) (locator : String) :
    (kept pages).lookup locator = (pages.lookup locator).map keptText := by
  induction pages with
  | nil => rfl
  | cons page pages inductionHypothesis =>
    have unfolded : kept (page :: pages) = (page.1, keptText page.2) :: kept pages := rfl
    rw [unfolded, List.lookup_cons, List.lookup_cons, inductionHypothesis]
    split <;> rfl

/-- The page that was fetched from an address in some turns. -/
def pageAt (turns : List Turn) (locator : String) : Except String String :=
  ((pages turns).lookup locator).getD (.error "")

/-- A text that is kept for an address is what is kept of the page that was fetched there. -/
theorem Goes.fetched_of_lookup {world : β} {locator text : String}
    (goes : Goes engine (.start world) turns t) (isKept : t.downloads.lookup locator = some text) :
    .fetched locator (pageAt turns locator) ∈ turns ∧ keptText (pageAt turns locator) = text := by
  rw [goes.downloads_start, lookup_kept] at isKept
  obtain ⟨page, found, isText⟩ := Option.map_eq_some_iff.mp isKept
  have isPage : pageAt turns locator = page := by
    unfold pageAt
    rw [found]
    rfl
  rw [isPage]
  obtain ⟨before, after, cut, _⟩ := List.lookup_eq_some_iff.mp found
  refine ⟨mem_pages_iff.mp ?_, isText⟩
  rw [cut]
  simp

end

end PromptTree.Workflow
