import PromptTree.Block
import PromptTree.Value.Json

/-!
Results as they are handed out: blocks transformed, and written as text.
-/

namespace PromptTree.Value

mutual

/-- The value with the blocks in its texts transformed; only maps are looked into. -/
def transformBlocks : Value → Except UnknownMode Value
  | text t => return text (.ofList (← Block.transform t.toList))
  | map entries => return map (← transformEntries entries)
  | v => return v
termination_by structural v => v

def transformEntries : List (Value × Value) → Except UnknownMode (List (Value × Value))
  | [] => return []
  | (key, v) :: entries => do
    let v ← v.transformBlocks
    return (key, v) :: (← transformEntries entries)
termination_by structural entries => entries

end

/-- A result as text: a text as it is, anything else as JSON on several lines. -/
def report? : Value → Option String
  | text t => some t
  | v => v.toJson? Json.pretty

end PromptTree.Value
