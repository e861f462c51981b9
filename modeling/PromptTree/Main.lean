import PromptTree.Calendar.Pattern
import PromptTree.CommandLine.Blocks
import PromptTree.CommandLine.Run
import Std.Time.Zoned

/-!
The program: the command line, the files that it names, the environment, the clock and chance are taken from
the machine. There is no network: every request is answered by the report that nothing was reached.
-/

namespace PromptTree.CommandLine

/-- What the answers of the machine depend on: the moment of the start, and where chance stands. -/
structure Machine where
  start : Calendar.Moment
  chance : StdGen

namespace Machine

def sources : Template.Sources Machine where
  now machine := (machine.start, machine)
  choose n machine :=
    let (choice, chance) := randNat machine.chance 0 (n - 1)
    (choice, { machine with chance })

def notReached : String := "no network"

def network : Web.Network Machine where
  post _ machine := (.unreachable notReached, machine)
  get _ machine := (.error notReached, machine)

def now : IO Calendar.Moment := do
  let t ← Std.Time.PlainDateTime.now
  let date := Calendar.Date.of? t.date.year.toInt.toNat t.date.month.val.toNat t.date.day.val.toNat
  let time := Calendar.TimeOfDay.of? t.time.hour.val.toNat t.time.minute.val.toNat
    t.time.second.val.toNat (t.time.nanosecond.val.toNat / 1000)
  match date, time with
  | some date, some time => return ⟨date, time, none⟩
  | _, _ => throw (IO.userError "the clock shows no time")

def entryAt (place : List String) : IO (Option Files.Entry) := do
  try
    let content ← IO.FS.readBinFile ("/" ++ String.intercalate "/" place)
    return some (.file content.toList)
  catch
    | .noFileOrDirectory .. => return none
    | .inappropriateType .. => return some .folder
    | e => throw e

def entriesTo (place : List String) : IO (List (List String × Files.Entry)) := do
  let mut entries := []
  for depth in List.range (place.length + 1) do
    match ← entryAt (place.take depth) with
    | some entry => entries := entries ++ [(place.take depth, entry)]
    | none => return entries
  return entries

def filesFor (here : List String) (request : Request) : IO Files := do
  let paths := match request with
    | .run path settings => [path, settings.contextPath, settings.outputPath]
    | .blocks path => [path]
  let mut entries := []
  for path in paths do
    entries := entries ++ (← entriesTo ((Files.Path.ofText path).absolute here).parts)
  return ⟨here, entries⟩

partial def readAll (input : IO.FS.Stream) (before : String) : IO String := do
  let line ← input.getLine
  if line.isEmpty then return before
  readAll input (before ++ line)

/-- The variables of the environment that say something to the program. -/
def environment : IO Scope := do
  let mut scope := Scope.empty
  for name in ["AIFLOW_BACKEND_URI", "AIFLOW_MODEL"] do
    if let some text ← IO.getEnv name then
      scope := scope.write name text
  return scope

/-- What stands in front of a line of the log that is written at a moment. -/
def stamp (m : Calendar.Moment) : String :=
  let milliseconds := Text.paddedNat 3 (m.time.microsecond / 1000)
  m.format "%Y-%m-%d %H:%M:%S" ++ "," ++ milliseconds ++ " - "

def carryOut (stamp : String) (o : Outcome Machine) : IO UInt32 := do
  for line in o.report do
    IO.eprintln (stamp ++ line)
  if let some (place, text) := o.written then
    IO.FS.writeFile ("/" ++ String.intercalate "/" place) text
  IO.print o.output
  return o.exit.toUInt32

def usageText : String :=
  "usage: aiflow run WORKFLOW [--context KEY=VALUE] [--context-file FILE] [--backend NAME]\n" ++
  "           [--backend-uri URI] [--model MODEL] [--max-retries N] [--retry-delay MS]\n" ++
  "           [--transform-blocks] [--output FILE] [--dry-run] [--debug] [--quiet] [--verbose]\n" ++
  "           [--log-level debug|info|warn|error]\n" ++
  "       aiflow blocks FILE\n"

def serve (words : List String) : IO UInt32 := do
  match Request.ofWords words with
  | .error usage =>
    if usage = .wrong then IO.eprint usageText else IO.print usageText
    return usage.exit.toUInt32
  | .ok request =>
    let here := (Files.Path.ofText (← IO.currentDir).toString).parts
    let start ← now
    let files ← filesFor here request
    let environment ← environment
    let machine : Machine := ⟨start, mkStdGen (← IO.rand 0 2147483647)⟩
    match request with
    | .run path settings =>
      let s : Surroundings Machine :=
        { toSources := sources, toNetwork := network, files, environment, input := "" }
      carryOut (stamp start) (runCommand s path settings machine)
    | .blocks path =>
      let input ← if path = "-" then readAll (← IO.getStdin) "" else pure ""
      let s : Surroundings Machine :=
        { toSources := sources, toNetwork := network, files, environment, input }
      match transformBlocks s path machine with
      | .ok o => carryOut "" o
      | .error fault =>
        IO.eprintln fault.message
        return 1

end Machine

end PromptTree.CommandLine

def main (words : List String) : IO UInt32 :=
  PromptTree.CommandLine.Machine.serve words
