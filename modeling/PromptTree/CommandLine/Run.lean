import PromptTree.Backend.Registry
import PromptTree.CommandLine.Context
import PromptTree.CommandLine.Outcome
import PromptTree.Fetcher
import PromptTree.Report
import PromptTree.Workflow.Interpreter

/-!
Running a workflow from the command line: the file is read and checked, the variables and the backends are
gathered, and the result is written.
-/

namespace PromptTree.CommandLine

variable {β : Type}

structure Progress (β : Type) where
  log : List LogEntry
  pauses : List Binary64
  world : β

abbrev Process (β : Type) := ExceptT Failure (StateM (Progress β))

namespace Process

def noteAll (entries : List LogEntry) : Process β Unit :=
  modify fun p => { p with log := p.log ++ entries }

def inform (message : String) : Process β Unit :=
  noteAll [⟨.runCommand, .info, message⟩]

def ofExcept {ε α : Type} (failure : ε → Failure) : Except ε α → Process β α
  | .ok a => return a
  | .error e => throw (failure e)

end Process

/-- The engine that asks the backends of a registry over a network. -/
def engine (s : Surroundings β) (selector : String) (retry : Workflow.Retry) :
    Workflow.Engine (Backend.Registry × β) where
  now := fun (registry, world) =>
    let (moment, world) := s.now world
    (moment, (registry, world))
  choose := fun n (registry, world) =>
    let (choice, world) := s.choose n world
    (choice, (registry, world))
  generate := fun name prompt schema => Backend.Registry.generate s.toNetwork name prompt (some schema)
  fetch := fun locator (registry, world) =>
    let reply := Fetcher.usual.fetch s.toNetwork locator world
    ⟨reply.outcome, reply.log, (registry, reply.world)⟩
  selector := selector
  passes := Template.defaultPasses
  retry := retry

/-- The given text, or another one if it is empty. -/
def orElse (text : String) (other : Value) : Value :=
  if text.isEmpty then other else .text text

/-- Takes up the address and the model that the command line gives. -/
def overrideBackend (settings : RunSettings) (registry : Backend.Registry) :
    Process β Backend.Registry :=
  if settings.address.isEmpty && settings.model.isEmpty then return registry
  else do
    let usual := registry.default
    let config : Backend.Config :=
      { usual with
        name := Backend.Registry.defaultName
        address := orElse settings.address usual.address
        model := orElse settings.model usual.model }
    let registry ← Process.ofExcept (fun r => .invalid r.message) (registry.register config)
    Process.noteAll [Backend.Registry.putLine config]
    return registry

/-- The registry of the environment, the command line and the workflow. -/
def gatherBackends (s : Surroundings β) (settings : RunSettings) (document : Document) :
    Process β Backend.Registry := do
  let registry ← overrideBackend settings (.start s.environment)
  let intake := registry.registerAll document.backends
  Process.noteAll intake.log
  let complaints ← Process.ofExcept (fun u => .invalid u.message) intake.complaints
  if complaints.isEmpty then return intake.registry
  else throw (.invalid (Backend.Registry.complaintsMessage complaints))

def readWorkflow (s : Surroundings β) (path : String) : Process β Document := do
  let path := (Files.Path.ofText path).absolute s.files.here
  if s.files.exists? path then
    Process.inform s!"Loading workflow: {path.text}"
    Process.ofExcept .ofSource (Document.ofFile s.files path)
  else throw (.noWorkflow path)

def journalLog (journal : List Workflow.Event) : List LogEntry :=
  journal.filterMap fun
    | .logged e => some e
    | _ => none

def journalPauses (journal : List Workflow.Event) : List Binary64 :=
  journal.filterMap fun
    | .paused milliseconds => Workflow.Retry.pauseSeconds milliseconds
    | _ => none

def runWorkflow (s : Surroundings β) (settings : RunSettings) (document : Document)
    (initial : Scope) (registry : Backend.Registry) (retry : Workflow.Retry) : Process β Value := do
  let selector := if settings.backend.isEmpty then document.backend else settings.backend
  let p ← get
  let (outcome, session) := StateT.run
    (ExceptT.run (Workflow.runDocument (engine s selector retry) document initial.toValues))
    (.start (registry, p.world))
  set (σ := Progress β)
    ⟨p.log ++ journalLog session.journal, p.pauses ++ journalPauses session.journal, session.world.2⟩
  let result ← Process.ofExcept .ofRun outcome
  return result.toValue

def resultText (settings : RunSettings) (result : Value) : Process β String := do
  let result ← if settings.transformsBlocks then
      Process.ofExcept (fun e => .failed e.message) result.transformBlocks
    else pure result
  match result.report? with
  | some text => return text
  | none => throw .unnamed

/-- Runs a workflow file. The result is the text of the output, and the file that is to be written. -/
def runFile (s : Surroundings β) (path : String) (settings : RunSettings) :
    Process β (String × Option (List String × String)) := do
  let document ← readWorkflow s path
  if settings.onlyChecks then
    Process.inform "[DRY RUN] Workflow validation successful"
    return ("", none)
  let initial ← Process.ofExcept id (settings.initialScope s.files)
  let registry ← gatherBackends s settings document
  let retry ← Process.ofExcept (fun e => .invalid e.message)
    (Workflow.Retry.of? (settings.retries + 1) settings.delay)
  let result ← runWorkflow s settings document initial registry retry
  let text ← resultText settings result
  if settings.outputPath.isEmpty then return (text ++ "\n", none)
  let place ← Process.ofExcept .ofFile (s.files.placeFor (.ofText settings.outputPath))
  Process.inform s!"Result written to {settings.outputPath}"
  return ("", some (place, text))

def shownLines (least : LogLevel) (log : List LogEntry) : List String :=
  (log.filter fun e => least.rank ≤ e.level.rank).map logLine

def runCommand (s : Surroundings β) (path : String) (settings : RunSettings) (world : β) : Outcome β :=
  let (outcome, p) := StateT.run (ExceptT.run (runFile s path settings)) ⟨[], [], world⟩
  match outcome with
  | .ok (output, written) =>
    { exit := 0, output, report := shownLines settings.leastLevel p.log, written
      pauses := p.pauses, world := p.world }
  | .error failure =>
    let lines := failure.messages.map fun m => (⟨.runCommand, .error, m⟩ : LogEntry)
    { exit := failure.exit, output := "", report := shownLines settings.leastLevel (p.log ++ lines)
      written := none, pauses := p.pauses, world := p.world }

end PromptTree.CommandLine
