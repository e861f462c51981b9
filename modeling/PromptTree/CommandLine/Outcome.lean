import PromptTree.Files.Basic
import PromptTree.Log
import PromptTree.Template.Resolve
import PromptTree.Web

/-!
What a command finds around it, and what it leaves behind.
-/

namespace PromptTree.CommandLine

structure Surroundings (β : Type) extends Template.Sources β, Web.Network β where
  files : Files
  environment : Scope
  input : String

/-- What a command leaves behind. -/
structure Outcome (β : Type) where
  exit : Nat
  output : String
  /-- The lines of the log, as they are shown. -/
  report : List String
  /-- The place of a file that is written, and its text. -/
  written : Option (List String × String)
  /-- The pauses, in seconds. -/
  pauses : List Binary64
  world : β

def logLine (e : LogEntry) : String :=
  s!"{e.source.name} - {e.level.name} - {e.message}"

end PromptTree.CommandLine
