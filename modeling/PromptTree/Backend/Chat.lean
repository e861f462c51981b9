import PromptTree.Backend.Config
import PromptTree.Backend.Fault
import PromptTree.Reply
import PromptTree.Text.Blank
import PromptTree.Value.JsonReader
import PromptTree.Web

/-!
A chat with a model: a prompt is sent as the only message, and the content of the message that comes back is
the answer. For a schema it has to be a JSON object.
-/

namespace PromptTree.Backend

structure Chat where
  config : Config
  url : String
  /-- User and password. -/
  credentials : Option (String × String)

def withoutSlashes (address : String) : String :=
  .ofList (Text.dropEndWhile (· = '/') address.toList)

/-- The text without its thoughts: what stands between a pair of marks, together with the marks. A mark that
opens no pair stays. -/
def withoutThoughts (fuel : Nat) (cs : List Char) : List Char :=
  match fuel with
  | 0 => cs
  | fuel + 1 =>
    match Text.around? "<think>".toList cs with
    | none => cs
    | some (before, rest) =>
      match Text.around? "</think>".toList rest with
      | none => cs
      | some (_, after) => before ++ withoutThoughts fuel after

namespace Chat

def of? (config : Config) : Except Fault Chat :=
  match config.address with
  | .text address =>
    match Uri.splitCredentials address with
    | .ok (address, credentials) =>
      .ok { config, url := withoutSlashes address ++ "/api/chat", credentials }
    | .error fault => .error (.address fault)
  | v => .error (.addressNotText v.kindName)

def beginning (n : Nat) (s : String) : String :=
  .ofList (s.toList.take n)

def body (chat : Chat) (prompt : String) (schema : Option Value) : Value :=
  .map (Entries.ofFields ([("model", chat.config.model),
      ("messages", .list [.map (Entries.ofFields [("role", .text "user"), ("content", .text prompt)])]),
      ("stream", .bool false),
      ("options", .map (Entries.overlay chat.config.options [(.text "temperature", .int 0)]))] ++
    schema.toList.map fun schema => ("format", schema)))

def request (chat : Chat) (prompt : String) (schema : Option Value) : Web.Post where
  url := chat.url
  body := chat.body prompt schema
  credentials := chat.credentials
  headers := .ofPairs [("Accept", "application/json"), ("User-Agent", "aiflow/0.1")]
  timeout := chat.config.timeout

/-- The content of the message in an answer, if it has one. -/
def content? (raw : Value) : Except Fault (Option Value) :=
  match raw with
  | .map entries =>
    match (Entries.get? entries "message").filter Value.isTruthy with
    | none => .ok none
    | some (.map message) => .ok ((Entries.get? message "content").filter Value.isTruthy)
    | some _ => .error .messageNotMap
  | _ => .ok none

def answerText (raw : Value) : Except Fault String := do
  match ← content? raw with
  | none =>
    let shown := (raw.toJson? Json.ascii).getD ""
    throw (.failed s!"Unexpected answer from the model: {beginning 500 shown}")
  | some (.text s) =>
    return .ofList (Text.trimWhile Text.isBlank (withoutThoughts s.length s.toList))
  | some _ => throw .contentNotText

/-- What an answer amounts to: its text, or the object that it writes if there is a schema. -/
def decode (schema : Option Value) (answer : String) : Except Fault Value :=
  match schema with
  | none => .ok (.text answer)
  | some _ =>
    match Json.read answer with
    | .ok (.map entries) => .ok (.map entries)
    | .ok _ => .error (.failed s!"Model response is not a JSON object: {beginning 500 answer}")
    | .error _ => .error (.failed s!"Failed to decode the model response: {beginning 500 answer}")

def outcome (chat : Chat) (schema : Option Value) : Web.Answer → Except Fault Value
  | .unreachable detail =>
    .error (.failed s!"Backend '{chat.config.name.shown}' request failed: {detail}")
  | .notJson detail =>
    .error (.failed s!"Backend '{chat.config.name.shown}' returned invalid JSON: {detail}")
  | .data raw => do decode schema (← answerText raw)

def logLines (chat : Chat) (prompt authority : String) : List LogEntry :=
  [⟨.client, .info, s!"Ollama request to {authority} using model {chat.config.model.shown}: " ++
      s!"{beginning 100 prompt}..."⟩,
    ⟨.client, .info, "Ollama request took 0.00s."⟩]

def ask {β : Type} (network : Web.Network β) (chat : Chat) (prompt : String) (schema : Option Value)
    (world : β) : Reply Fault Value β :=
  -- The address is read again for the log, before anything is sent.
  match Uri.read chat.url with
  | .error fault => ⟨.error (.address fault), [], world⟩
  | .ok uri =>
    let (answer, world) := network.post (chat.request prompt schema) world
    ⟨chat.outcome schema answer, chat.logLines prompt uri.authority, world⟩

end Chat

end PromptTree.Backend
