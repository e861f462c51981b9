import PromptTree.CommandLine.Word
import PromptTree.Log

/-!
What a command line asks for.
-/

namespace PromptTree.CommandLine

structure RunSettings where
  /-- Initial variables, each of the form `KEY=VALUE`. -/
  context : List String := []
  /-- The path of a JSON file with initial variables. -/
  contextPath : String := ""
  /-- The backend that is asked in place of the one that the workflow names. -/
  backend : String := ""
  /-- The address and the model of the backend that stands in for others. -/
  address : String := ""
  model : String := ""
  /-- The number of attempts after the first. -/
  retries : Int := 5
  /-- The pause between two attempts, in milliseconds. -/
  delay : Int := 0
  transformsBlocks : Bool := false
  /-- The path of the file for the result. -/
  outputPath : String := ""
  onlyChecks : Bool := false
  debug : Bool := false
  quiet : Bool := false
  verbose : Bool := false
  level : LogLevel := .info

inductive Request where
  | run (path : String) (settings : RunSettings)
  /-- The path of the file, where a dash stands for the input. -/
  | blocks (path : String)

/-- Why a command line asks for nothing. -/
inductive Usage where
  | help
  | wrong
  | nothing
deriving DecidableEq, Repr

/-- The exit code for a command line that asks for nothing. -/
def Usage.exit : Usage → Nat
  | help => 0
  | wrong => 2
  | nothing => 1

namespace RunSettings

/-- The lowest level of the lines that are shown. -/
def leastLevel (settings : RunSettings) : LogLevel :=
  if settings.debug then .debug
  else if settings.quiet then .error
  else if settings.verbose then .debug
  else settings.level

def levelNamed? : String → Option LogLevel
  | "debug" => some .debug
  | "info" => some .info
  | "warn" => some .warning
  | "error" => some .error
  | _ => none

def helpOptions {σ : Type} : Options σ := [("-h", .help), ("--help", .help)]

/-- An option with any text as its argument. -/
def text (apply : String → RunSettings → RunSettings) : Effect RunSettings :=
  .argument fun word settings => some (apply word settings)

/-- An option with a whole number as its argument. -/
def number (apply : Int → RunSettings → RunSettings) : Effect RunSettings :=
  .argument fun word settings => (Text.readInt? word).map (apply · settings)

def options : Options RunSettings := helpOptions ++
  [("--context", text fun word s => { s with context := s.context ++ [word] }),
    ("--context-file", text fun word s => { s with contextPath := word }),
    ("--backend", text fun word s => { s with backend := word }),
    ("--backend-uri", text fun word s => { s with address := word }),
    ("--model", text fun word s => { s with model := word }),
    ("--max-retries", number fun n s => { s with retries := n }),
    ("--retry-delay", number fun n s => { s with delay := n }),
    ("--transform-blocks", .flag fun s => { s with transformsBlocks := true }),
    ("--output", text fun word s => { s with outputPath := word }),
    ("--dry-run", .flag fun s => { s with onlyChecks := true }),
    ("--debug", .flag fun s => { s with debug := true }),
    ("--quiet", .flag fun s => { s with quiet := true }),
    ("--verbose", .flag fun s => { s with verbose := true }),
    ("--log-level", .argument fun word s => (levelNamed? word).map fun level => { s with level })]

end RunSettings

namespace Request

def ofReading {σ : Type} (left : Bool) (request : String → σ → Request) :
    Reading σ → Except Usage Request
  | .help => .error .help
  | .wrong => .error .wrong
  | .command operand settings more =>
    if left || more then .error .wrong else .ok (request operand settings)

/-- The request that words make, the command first. Options in front of it are left over. -/
def ofCommand (left : Bool) : List String → Except Usage Request
  | [] | "--" :: _ => .error .wrong
  | word :: words =>
    match Word.of (RunSettings.helpOptions : Options Unit) word with
    | .ok (.operand "run") =>
      ofReading left .run (.ofWords RunSettings.options {} words)
    | .ok (.operand "blocks") =>
      ofReading left (fun path () => .blocks path) (.ofWords RunSettings.helpOptions () words)
    | .ok .unknown => ofCommand true words
    | .ok (.option .help none) | .ok (.shortOptions true) => .error .help
    | _ => .error .wrong

def ofWords : List String → Except Usage Request
  | [] => .error .nothing
  | words => ofCommand false words

end Request

end PromptTree.CommandLine
