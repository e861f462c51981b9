import PromptTree.Document.Tree

/-!
Workflows read from data. All problems are collected; a description makes a workflow only if there are
none.
-/

namespace PromptTree.Document

namespace Reading

def topFields : List String := ["version", "name", "backend", "backends", "context", "root"]

def backendFields : List String := ["uri", "model", "timeout_sec", "options"]

def version (entries : Entries) : Reading String :=
  match fieldOf entries "version" with
  | .null => do
    note "" .noVersion
    return ""
  | v => do
    unless supportedVersions.contains v.shown do note "" (.wrongVersion v.shown)
    return v.shown

def knownTop (version : String) : Entries → Reading Unit :=
  knownKeys "" (.unknownTop · version) topFields

def topText (entries : Entries) (key : String) : Reading String :=
  match fieldOf entries key with
  | .null => of ""
  | .text s => of s
  | v => do
    note "workflow" (.topNotText key v.kindName)
    return ""

def knownBackend (name : String) : Entries → Reading Unit :=
  knownKeys "" (.unknownBackendField name) backendFields

def backendEntry (name : String) : Value → Reading Unit
  | .map entries => do
    knownBackend name entries
    match Entries.get? entries "options" with
    | none | some (.map _) => of ()
    | some _ => note "" (.backendOptionsNotMap name)
  | _ => note "" (.backendNotMap name)

def backendEntries : Entries → Reading Unit
  | [] => of ()
  | (key, v) :: rest => do
    backendEntry key.shown v
    backendEntries rest

def backendsOf (entries : Entries) : Reading Entries :=
  match Entries.get? entries "backends" with
  | none => of []
  | some (.map brought) => do
    backendEntries brought
    return brought
  | some _ => do
    note "" .backendsNotMap
    return []

def contextOf (entries : Entries) : Reading Scope :=
  match Entries.get? entries "context" with
  | none => of .empty
  | some (.map given) => match Scope.ofValues given with
    | .ok scope => of scope
    | .error _ => stop .noText
  | some _ => do
    note "" .contextNotMap
    return .empty

def rootOf (entries : Entries) : Reading (Option Step) :=
  match Entries.get? entries "root" with
  | some v => step "root" v
  | none => do
    note "" .noRoot
    return none

def document (entries : Entries) : Reading (Option Document) := do
  let version ← version entries
  unless version.isEmpty do knownTop version entries
  let name ← topText entries "name"
  let backend ← topText entries "backend"
  let backends ← backendsOf entries
  let context ← contextOf entries
  let root ← rootOf entries
  return root.map fun root =>
    { name, version, backend := if backend.isEmpty then "workflow" else backend, backends, context, root }

def outcome {α : Type} : Reading (Option α) → Except Refusal α
  | .ok (some a, []) => .ok a
  | .ok (_, problems) => .error (.problems problems)
  | .error o => .error (.obstacle o)

end Reading

/-- The workflow that the fields of a description describe. -/
def ofEntries (entries : Entries) : Except Refusal Document :=
  (Reading.document entries).outcome

def ofValue : Value → Except Refusal Document
  | .map entries => ofEntries entries
  | _ => .error (.problems [⟨"", .notMap⟩])

end PromptTree.Document
