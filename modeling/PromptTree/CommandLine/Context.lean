import PromptTree.CommandLine.Failure
import PromptTree.CommandLine.Request
import PromptTree.Value.JsonReader

/-!
The initial variables that a command line gives: those of a file, and over them those of the command line
itself.
-/

namespace PromptTree.CommandLine

/-- The variables that a JSON object makes: each value by its display. -/
def shownVariables (entries : Entries) : List (String × String) :=
  entries.map fun (key, v) => (key.shown, v.shown)

def jsonVariables (text : String) : Except Failure (List (String × String)) :=
  match Json.read text with
  | .error f => .error (.invalid (f.message text))
  | .ok (.map entries) => .ok (shownVariables entries)
  | .ok v => .error (.invalid s!"Context file must contain a JSON object, got {v.kindName}")

def fileVariables (files : Files) (path : Files.Path) : Except Failure (List (String × String)) :=
  if files.exists? path then
    match files.readText path with
    | .error f => .error (.ofText f)
    | .ok text => jsonVariables text
  else .error (.noFile s!"Context file not found: {path.text}")

/-- The variable in a word: its name stands before the first equals sign. -/
def wordVariable (word : String) : Except Failure (String × String) :=
  match Text.cutAt '=' word.toList with
  | (name, some text) => .ok (.ofList name, .ofList text)
  | (_, none) => .error (.invalid s!"Invalid context format: {word}. Expected KEY=VALUE")

def RunSettings.initialScope (settings : RunSettings) (files : Files) : Except Failure Scope := do
  let fromFile ← if settings.contextPath.isEmpty then .ok [] else
    fileVariables files (.ofText settings.contextPath)
  let fromWords ← settings.context.mapM wordVariable
  return .ofPairs (fromFile ++ fromWords)

end PromptTree.CommandLine
