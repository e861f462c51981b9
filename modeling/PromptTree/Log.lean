/-!
Log lines.
-/

namespace PromptTree

/-- How much a log line matters. -/
inductive LogLevel where
  | debug
  | info
  | warning
  | error
deriving DecidableEq, Repr

namespace LogLevel

def name : LogLevel → String
  | debug => "DEBUG"
  | info => "INFO"
  | warning => "WARNING"
  | error => "ERROR"

def rank : LogLevel → Nat
  | debug => 0
  | info => 1
  | warning => 2
  | error => 3

end LogLevel

inductive LogSource where
  | template
  | run
  | backends
  | client
  | retrieval
  | runCommand
  | blocksCommand
deriving DecidableEq, Repr

def LogSource.name : LogSource → String
  | template => "aiflow.variables.substitution"
  | run => "aiflow.workflow.context"
  | backends => "aiflow.providers.registry"
  | client => "aiflow.providers.ollama"
  | retrieval => "aiflow.retrieval.fetcher"
  | runCommand => "aiflow.cli.commands.run"
  | blocksCommand => "aiflow.cli.commands.blocks"

structure LogEntry where
  source : LogSource
  level : LogLevel
  message : String
deriving DecidableEq, Repr

end PromptTree
