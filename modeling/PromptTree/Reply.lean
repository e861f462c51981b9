import PromptTree.Log

/-!
Answers from outside of a run.
-/

namespace PromptTree

/-- An answer from outside: what came of the request, what was logged on the way, and what later answers
depend on. -/
structure Reply (ε α β : Type) where
  outcome : Except ε α
  log : List LogEntry
  world : β

end PromptTree
