import PromptTree.Backend.Chat

/-!
The backends that are known by name. The one called `default` stands in for every name that is not known,
and gives the backends of a workflow what they leave out.
-/

namespace PromptTree.Backend

/-- A chat that has been opened, and the number of its opening. -/
structure Client where
  chat : Chat
  number : Nat

/-- The backends that are known by name, and the chats that have been opened. -/
structure Registry where
  configs : List (Value × Config)
  clients : List (Value × Client)
  /-- The number of chats that have been opened so far. -/
  opened : Nat

namespace Registry

def defaultName : Value := .text "default"

/-- The backend that stands in for others, as the environment has it. -/
def builtIn (environment : Scope) : Config where
  name := defaultName
  address := .text ((environment.get? "AIFLOW_BACKEND_URI").getD Config.defaultAddress)
  model := .text ((environment.get? "AIFLOW_MODEL").getD Config.defaultModel)
  timeout := Config.defaultTimeout
  options := []

def start (environment : Scope) : Registry :=
  ⟨[(defaultName, builtIn environment)], [], 0⟩

def names (registry : Registry) : List Value :=
  registry.configs.map (·.1)

def knows (registry : Registry) (name : Value) : Bool :=
  (Entries.find? name registry.configs).isSome

def default (registry : Registry) : Config :=
  (Entries.find? defaultName registry.configs).getD (builtIn .empty)

def get (registry : Registry) (name : Value) : Config :=
  (Entries.find? name registry.configs).getD registry.default

inductive Refusal where
  | problems (name : Value) (problems : List ConfigProblem)
  | timeoutNotNumber
deriving Inhabited

def Refusal.message : Refusal → String
  | .problems name found =>
    "Invalid backend configuration: " ++ String.intercalate "; " (found.map (·.message name))
  | .timeoutNotNumber => "the timeout is not a number"

/-- Takes up a configuration under its name. A chat that was opened under that name is given up. -/
def put (registry : Registry) (config : Config) : Registry :=
  { registry with
    configs := Entries.insert config.name config registry.configs
    clients := Entries.without config.name registry.clients }

/-- The line that is logged for a configuration that has been taken up. -/
def putLine (config : Config) : LogEntry :=
  ⟨.backends, .debug, s!"Registered backend: {config.name.shown}"⟩

def register (registry : Registry) (config : Config) : Except Refusal Registry :=
  match config.problems with
  | .error _ => .error .timeoutNotNumber
  | .ok [] => .ok (registry.put config)
  | .ok found => .error (.problems config.name found)

inductive Complaint where
  | problem (name : Value) (problem : ConfigProblem)
  /-- The entry makes no configuration. -/
  | unusable (name : Value)

def Complaint.message : Complaint → String
  | .problem name found => found.message name
  | .unusable name => s!"Error registering backend '{name.shown}': {Text.unworded}"

def complaintsMessage (complaints : List Complaint) : String :=
  "Backend registration errors: " ++ String.intercalate "; " (complaints.map (·.message))

/-- The configuration that an entry makes together with the one that stands in for others. -/
def merged? (default : Config) (name : Value) : Value → Option Config
  | .map entries =>
    match (Entries.get? entries "options").getD (.map []) with
    | .map options =>
      some
        { name
          address := (Entries.get? entries "uri").getD default.address
          model := (Entries.get? entries "model").getD default.model
          timeout := (Entries.get? entries "timeout_sec").getD
            (if default.timeout.isTruthy then default.timeout else Config.defaultTimeout)
          options := Entries.overlay options default.options }
    | _ => none
  | _ => none

/-- The configuration that an entry makes, or the complaints about it. -/
def read (default : Config) (name v : Value) : Except (List Complaint) Config :=
  match merged? default name v with
  | none => .error [.unusable name]
  | some config =>
    match config.problems with
    | .error _ => .error [.unusable name]
    | .ok [] => .ok config
    | .ok found => .error (found.map (.problem name))

/-- A name that no line and no complaint can hold. -/
structure UnwritableName where
  name : Value

def UnwritableName.message (_ : UnwritableName) : String :=
  Text.exceedsDigits ""

/-- What has come of taking up entries: the registry, the complaints unless a name could not be written,
and the log. -/
structure Intake where
  registry : Registry
  complaints : Except UnwritableName (List Complaint)
  log : List LogEntry

/-- Takes up the entries that make a configuration together with a given one, up to the first whose name
cannot be written. -/
def takeUp (default : Config) (registry : Registry) : Entries → Intake
  | [] => ⟨registry, .ok [], []⟩
  | (name, v) :: rest =>
    match read default name v with
    | .ok config =>
      -- The name is first written when the configuration is already there.
      let registry := registry.put config
      if name.isWritable then
        let after := takeUp default registry rest
        { after with log := putLine config :: after.log }
      else ⟨registry, .error ⟨name⟩, []⟩
    | .error complaints =>
      if name.isWritable then
        let after := takeUp default registry rest
        { after with complaints := after.complaints.map (complaints ++ ·) }
      else ⟨registry, .error ⟨name⟩, []⟩

def registerAll (registry : Registry) (entries : Entries) : Intake :=
  takeUp registry.default registry entries

/-- The chat for a name. One that has been opened for the same configuration is used again. -/
def client (registry : Registry) (name : Value) : Except Fault (Client × Registry) :=
  let config := registry.get name
  match Entries.find? config.name registry.clients with
  | some client => .ok (client, registry)
  | none => do
    let chat ← Chat.of? config
    let client := ⟨chat, registry.opened⟩
    return (client, { registry with
      clients := Entries.insert config.name client registry.clients
      opened := registry.opened + 1 })

def generate {β : Type} (network : Web.Network β) (name prompt : String) (schema : Option Value) :
    Registry × β → Reply Fault Value (Registry × β)
  | (registry, world) =>
    match registry.client (.text name) with
    | .error fault => ⟨.error fault, [], (registry, world)⟩
    | .ok (client, registry) =>
      let reply := client.chat.ask network prompt schema world
      ⟨reply.outcome, reply.log, (registry, reply.world)⟩

end Registry

end PromptTree.Backend
