import PromptTree.Document.Source
import PromptTree.Workflow.Rejection

/-!
Why a run from the command line fails, and how that is said. A failure of the workflow's own making ends
with the code 1, and one of what the workflow was given with the code 2.
-/

namespace PromptTree.CommandLine

inductive Failure where
  | noWorkflow (path : Files.Path)
  | problems (found : List Document.Problem)
  | noFile (detail : String)
  | failed (detail : String)
  /-- A value is not one of those that are allowed. -/
  | invalid (detail : String)
  | unexpected (detail : String)

namespace Failure

def exit : Failure → Nat
  | noWorkflow _ | noFile _ | failed _ | unexpected _ => 1
  | problems _ | invalid _ => 2

def problemMessage (p : Document.Problem) : String :=
  let place := if p.path.isEmpty then "" else s!" ({p.path})"
  s!"Validation error{place}: {p.mistake.message}"

def messages : Failure → List String
  | noWorkflow path => [s!"Workflow file not found: {path.text}"]
  | problems found => found.map problemMessage
  | noFile detail => [s!"File not found: {detail}"]
  | failed detail => [s!"Workflow failed: {detail}"]
  | invalid detail => [s!"Validation error: {detail}"]
  | unexpected detail => [s!"Unexpected error: {detail}"]

def unnamed : Failure := unexpected Text.unworded

def ofFile (f : Files.Fault) : Failure :=
  match f.trouble with
  | .missing => noFile f.message
  | .notFolder | .isFolder => unexpected f.message

def ofText : Files.TextFault → Failure
  | .file f => ofFile f
  | .encoding f => invalid f.message

def ofPattern (f : Regex.Fault) : Failure :=
  match f with
  | .malformed | .repeatTooLarge => unnamed
  | .numberTooLong _ | .asciiAndAll => invalid f.message

def ofSource : Document.SourceFault → Failure
  | .refused (.problems found) => problems found
  | .refused (.obstacle (.pattern f)) => ofPattern f
  | .refused (.obstacle .noText) | .refused (.obstacle .sourceNotSimple)
  | .refused (.obstacle .limitInfinite) => unnamed
  | .value f => f.valueMessage?.elim unnamed invalid
  | .encoding f => invalid f.message

def ofMoment (e : Calendar.MomentError) : Failure :=
  match e with
  | .notUnderstood _ => failed e.message
  | .yearOutOfRange _ | .amountTooLong _ => invalid e.message
  | .shiftTooLarge => unnamed

def ofTemplate (f : Template.Fault) : Failure :=
  match f with
  | .unsettled _ _ => failed f.message
  | .moment e => ofMoment e
  | .countTooLong _ => invalid f.message

def ofBackend (f : Backend.Fault) : Failure :=
  match f with
  | .failed _ => failed f.message
  | .address _ => invalid f.message
  | .addressNotText _ | .messageNotMap | .contentNotText => unnamed

def ofRun (f : Workflow.Fault) : Failure :=
  match f with
  | .template f => ofTemplate f
  | .pattern f => ofPattern f
  | .backend f => ofBackend f
  | .needsScope _ _ | .exhausted _ _ _ => failed f.message
  | .text _ | .valueNotText | .page _ => unnamed

end Failure

end PromptTree.CommandLine
