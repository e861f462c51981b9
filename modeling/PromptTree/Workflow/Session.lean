import PromptTree.Reply
import PromptTree.Workflow.Rejection
import PromptTree.Workflow.Retry

/-!
What a run needs from outside, and what it remembers: the pages it has downloaded and everything that
happened, in order.
-/

namespace PromptTree.Workflow

/-- What a run needs from outside; `β` is what the answers depend on. -/
structure Engine (β : Type) extends Template.Sources β where
  /-- The answer of a backend to a prompt, for a schema. -/
  generate : (selector prompt : String) → (schema : Value) → β → Reply Backend.Fault Value β
  /-- The text behind an address, or why there is none. -/
  fetch : (locator : String) → β → Reply String String β
  /-- The name of the backend that is asked. -/
  selector : String
  /-- The number of passes of a resolution. -/
  passes : Int
  retry : Retry

/-- Something that happens in a run. -/
inductive Event where
  | logged (entry : LogEntry)
  | asked (selector prompt : String) (schema : Value)
  | fetched (locator : String)
  | paused (milliseconds : Int)

/-- What a run remembers. -/
structure Session (β : Type) where
  /-- Downloaded texts by address. -/
  downloads : List (String × String)
  journal : List Event
  world : β

def Session.start {β : Type} (world : β) : Session β := ⟨[], [], world⟩

/-- A stretch of a run. -/
abbrev Run (β : Type) := ExceptT Fault (StateM (Session β))

def runId : String := "000000000000"

namespace Run

variable {β : Type}

def note (event : Event) : Run β Unit :=
  modify fun s => { s with journal := s.journal ++ [event] }

def noteAll (entries : List LogEntry) : Run β Unit :=
  modify fun s => { s with journal := s.journal ++ entries.map .logged }

def log (level : LogLevel) (message : String) : Run β Unit :=
  note (.logged ⟨.run, level, s!"[{runId}] {message}"⟩)

def ofExcept {α : Type} : Except Fault α → Run β α
  | .ok a => return a
  | .error fault => throw fault

/-- Resolves a template. Names without a text are logged. -/
def resolve (engine : Engine β) (text : String) (scope : Scope) : Run β String := do
  let s ← get
  let r := Template.resolve engine.toSources engine.passes text scope s.world
  set { s with world := r.source }
  noteAll (r.unbound.map fun u => ⟨.template, .warning, u.message⟩)
  match r.outcome with
  | .ok text => return text
  | .error fault => throw (.template fault)

def resolveAll (engine : Engine β) (scope : Scope) :
    List (String × String) → Run β (List (String × String))
  | [] => return []
  | (name, text) :: rest => do
    let value ← resolve engine text scope
    return (name, value) :: (← resolveAll engine scope rest)

def ask (engine : Engine β) (prompt : String) (schema : Value) : Run β Value := do
  note (.asked engine.selector prompt schema)
  let s ← get
  let reply := engine.generate engine.selector prompt schema s.world
  set { s with world := reply.world }
  noteAll reply.log
  match reply.outcome with
  | .ok answer => return answer
  | .error fault => throw (.backend fault)

def unknownPage : String := "**unknown**"

def downloadFailure (locator message : String) : String :=
  s!"Failed to download URL: {locator}. Will use keyword '{unknownPage}'. Error: {message}"

def download (engine : Engine β) (locator : String) : Run β String := do
  match (← get).downloads.lookup locator with
  | some text => return text
  | none =>
    note (.fetched locator)
    let s ← get
    let reply := engine.fetch locator s.world
    set { s with world := reply.world }
    noteAll reply.log
    let text ← match reply.outcome with
      | .ok text => pure text
      | .error message => do
        log .error (downloadFailure locator message)
        pure unknownPage
    modify fun s => { s with downloads := s.downloads ++ [(locator, text)] }
    return text

end Run

end PromptTree.Workflow
