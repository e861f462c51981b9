import PromptTree.Calendar.Expression
import PromptTree.Calendar.Pattern
import PromptTree.Scope
import PromptTree.Template.Command
import PromptTree.Template.Piece

/-!
Resolving a template against a scope: every reference is replaced by its value, and so are the
references in what results, until the text stays the same. Captures bind names for the time of one
resolution; the scope itself does not change.
-/

namespace PromptTree.Template

/-- Where the current moment and random choices come from; `β` is what they depend on. -/
structure Sources (β : Type) where
  /-- The current moment. -/
  now : β → Calendar.Moment × β
  /-- A number below the given one, which is not zero. -/
  choose : Nat → β → Nat × β

/-- A reference to a name without a text: the name, the reference as it is written, and the names that
had a text. -/
structure Unbound where
  name : String
  raw : String
  known : List String
deriving DecidableEq, Repr

def Unbound.message (u : Unbound) : String :=
  let known := ((Value.list (u.known.map .text)).toJson? Json.plain).getD ""
  s!"Variable '{u.name}' not found. Text: {Json.string Json.ascii u.raw}. Supported vars: {known}"

inductive Fault where
  /-- The text was still changing after the last pass. -/
  | unsettled (passes : Int) (text : String)
  /-- A phrase names no moment. -/
  | moment (error : Calendar.MomentError)
  /-- A count has more digits than a number may have. -/
  | countTooLong (digits : Nat)
deriving DecidableEq, Repr

def Fault.message : Fault → String
  | unsettled passes text =>
    s!"Template did not settle after {passes} passes: {Json.string Json.ascii text}"
  | moment error => error.message
  | countTooLong digits => Text.tooManyDigits digits

/-- The state of a resolution: the bindings in force, the unbound names reported so far, and what the
sources depend on. -/
structure Resolution (β : Type) where
  bindings : Scope
  unbound : List Unbound
  source : β

/-- A step of a resolution. -/
abbrev Resolving (β : Type) := ExceptT Fault (StateM (Resolution β))

namespace Resolving

variable {β : Type}

def bindName (name value : List Char) : Resolving β Unit :=
  modify fun r => { r with bindings := r.bindings.write (.ofList name) (.ofList value) }

/-- Reports an unbound name, unless it was reported before. -/
def report (name raw : List Char) : Resolving β Unit :=
  modify fun r =>
    if r.unbound.any (·.name == String.ofList name) then r
    else { r with unbound := r.unbound ++ [⟨.ofList name, .ofList raw, r.bindings.names⟩] }

def lookup (name : List Char) : Resolving β (Option (List Char)) := do
  return ((← get).bindings.get? (.ofList name)).map String.toList

def now (sources : Sources β) : Resolving β Calendar.Moment := do
  let r ← get
  let (moment, source) := sources.now r.source
  set { r with source }
  return moment

def randomChars (sources : Sources β) (charset : List Char) : Nat → Resolving β (List Char)
  | 0 => return []
  | count + 1 => do
    let r ← get
    let (i, source) := sources.choose charset.length r.source
    set { r with source }
    return charset[i]?.toList ++ (← randomChars sources charset count)

/-- The value of a command; a name without a text leaves the reference as it is written. -/
def perform (sources : Sources β) (raw : List Char) : Command → Resolving β (List Char)
  | .camel name => return camelCase ((← lookup name).getD [])
  | .tee name value => do
    bindName name value
    return value
  | .date pattern expression => do
    let now ← now sources
    match Calendar.resolveMoment (some (.ofList expression)) now with
    | .ok moment => return (moment.format (.ofList pattern)).toList
    | .error error => throw (.moment error)
  | .random length charset =>
    match leadingNumber length with
    | .ok count => randomChars sources charset count
    | .error digits => throw (.countTooLong digits)
  | .lookup name => do
    match ← lookup name with
    | some value => return value
    | none =>
      report name raw
      return raw

end Resolving

namespace Piece

variable {β : Type}

mutual

/-- The value of a piece. A body that begins with the mark of a capture has nothing to capture and
stays as it is. -/
def eval (sources : Sources β) : Piece → Resolving β (List Char)
  | .char c => return [c]
  | .reference body capture => do
    let raw := (Piece.reference body capture).raw
    if (rawAll body).head? = some '>' then return raw
    else
      let value ← Resolving.perform sources raw (.ofBody (← evalAll sources body))
      match capture with
      | some name => Resolving.bindName name value
      | none => pure ()
      return value
termination_by structural p => p

def evalAll (sources : Sources β) : List Piece → Resolving β (List Char)
  | [] => return []
  | p :: ps => return (← p.eval sources) ++ (← evalAll sources ps)
termination_by structural ps => ps

end

end Piece

variable {β : Type}

/-- One pass over a text: each reference at its top level is replaced by its value. -/
def pass (sources : Sources β) (text : List Char) : Resolving β (List Char) :=
  Piece.evalAll sources (Piece.read text)

/-- Passes over a text until it stays the same, at most as many as given; `none` if it never does. -/
def settle (sources : Sources β) : (passes : Nat) → List Char → Resolving β (Option (List Char))
  | 0, _ => return none
  | passes + 1, text => do
    let updated ← pass sources text
    if updated = text then return some updated else settle sources passes updated

def defaultPasses : Int := 100

/-- What a resolution comes to: its text or fault, the names that it reported as unbound, and what the
sources depend on afterwards. -/
structure Resolved (β : Type) where
  outcome : Except Fault String
  unbound : List Unbound
  source : β

/-- Resolves a template against a scope in at most the given number of passes. -/
def resolve (sources : Sources β) (passes : Int) (text : String) (scope : Scope) (source : β) :
    Resolved β :=
  let start : Resolution β := ⟨scope, [], source⟩
  let (outcome, r) := StateT.run (ExceptT.run (settle sources passes.toNat text.toList)) start
  let outcome :=
    match outcome with
    | .error fault => .error fault
    | .ok (some cs) => .ok (.ofList cs)
    | .ok none => .error (.unsettled passes (text.take 200).toString)
  ⟨outcome, r.unbound, r.source⟩

end PromptTree.Template
