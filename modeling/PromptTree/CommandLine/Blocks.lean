import PromptTree.Block
import PromptTree.CommandLine.Outcome

/-!
Transforming the blocks in a file.
-/

namespace PromptTree.CommandLine

def blocksText {β : Type} (s : Surroundings β) (path : String) : Except Files.TextFault String :=
  if path = "-" then .ok (.ofList (Text.normalizeNewlines s.input.toList))
  else s.files.readText (.ofText path)

/-- Transforms the blocks in a file. A file that holds no text is a fault of its own. -/
def transformBlocks {β : Type} (s : Surroundings β) (path : String) (world : β) :
    Except Text.Utf8.Fault (Outcome β) :=
  match blocksText s path with
  | .error (.encoding fault) => .error fault
  | .error (.file fault) =>
    .ok { exit := 1, output := "", report := [s!"Cannot read {path}: {fault.message}"]
          written := none, pauses := [], world }
  | .ok text =>
    match Block.transform text.toList with
    | .error e =>
      .ok { exit := 2, output := "", report := [e.message], written := none, pauses := [], world }
    | .ok transformed =>
      .ok { exit := 0, output := .ofList transformed, report := [], written := none, pauses := [], world }

end PromptTree.CommandLine
