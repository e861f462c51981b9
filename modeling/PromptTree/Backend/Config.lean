import PromptTree.Value.Display

/-!
How a backend is reached. A configuration may come from a workflow, so that each of its fields may hold
anything.
-/

namespace PromptTree.Backend

structure Config where
  name : Value
  /-- The address, possibly with a user and a password. -/
  address : Value
  model : Value
  /-- The longest time that an answer may take, in seconds. -/
  timeout : Value
  /-- Further options that are sent with each request. -/
  options : Entries

inductive ConfigProblem where
  | noAddress
  | noModel
  | timeoutNotPositive
deriving DecidableEq, Repr

/-- The wording of a problem with the configuration of a name. -/
def ConfigProblem.message (name : Value) : ConfigProblem → String
  | noAddress => s!"Backend '{name.shown}': uri cannot be empty"
  | noModel => s!"Backend '{name.shown}': model cannot be empty"
  | timeoutNotPositive => s!"Backend '{name.shown}': timeout_sec must be positive"

structure TimeoutNotNumber where
deriving DecidableEq, Repr

namespace Config

def defaultTimeout : Value := .int 28800

def defaultAddress : String := "http://localhost:11434"

def defaultModel : String := "llama3.1"

/-- A timeout is zero or less; a missing one is not. -/
def isSpent : Value → Except TimeoutNotNumber Bool
  | .null => .ok false
  | .bool b => .ok !b
  | .int n => .ok (n ≤ 0)
  | .float x => .ok (x.leInt 0)
  | _ => .error ⟨⟩

def problems (config : Config) : Except TimeoutNotNumber (List ConfigProblem) := do
  let spent ← isSpent config.timeout
  return (if config.address.isTruthy then [] else [.noAddress]) ++
    (if config.model.isTruthy then [] else [.noModel]) ++ (if spent then [.timeoutNotPositive] else [])

end Config

end PromptTree.Backend
