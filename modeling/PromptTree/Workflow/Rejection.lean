import PromptTree.Backend.Fault
import PromptTree.Html.Token
import PromptTree.Regex.Reader
import PromptTree.Template.Resolve
import PromptTree.Workflow.Step

/-!
Why an answer is not accepted, and why a run ends without a result.
-/

namespace PromptTree.Workflow

/-- Why an answer is not accepted. -/
inductive Rejection where
  /-- A required variable is empty; `scope` is the beginning of all variables, as JSON. -/
  | missing (name : String) (scope : String)
  | unmatched (name pattern value : String)
  | notAnOption (name : String) (options : List String) (value : String)
  /-- A validator came to another verdict than expected about a text. -/
  | verdict (expected verdict explanation source text : String)
deriving DecidableEq, Repr

namespace Rejection

def message : Rejection → String
  | missing name scope => s!"The required variable '{name}' is missing: {scope}"
  | unmatched name pattern value =>
    s!"The variable '{name}' does not match the required pattern {pattern}: {value}"
  | notAnOption name options value =>
    let shown := (Value.list (options.map .text)).quoted
    s!"The variable '{name}' is not one of {shown}: {value}"
  | verdict expected given explanation source text =>
    s!"Validation failed expected {expected} ({source} {explanation}), got {given}. " ++
      s!"Text: {Json.string Json.plain text}"

def name? : Rejection → Option String
  | missing name _ | unmatched name _ _ | notAnOption name _ _ => some name
  | verdict .. => none

end Rejection

/-- Why a run ends without a result. -/
inductive Fault where
  | template (fault : Template.Fault)
  /-- A value has no text. -/
  | text (error : TextError)
  | pattern (fault : Regex.Fault)
  /-- A pattern should be found in a value that is not a text. -/
  | valueNotText
  /-- A downloaded page cannot be read. -/
  | page (rejected : Html.Rejected)
  | backend (fault : Backend.Fault)
  /-- A step or a return value needs a scope, but a child has returned a text. -/
  | needsScope (step consumer : String)
  /-- All attempts of a step have been rejected. -/
  | exhausted (step : String) (attempts : Nat) (last : Option Rejection)
deriving DecidableEq, Repr

def Fault.message : Fault → String
  | template fault => fault.message
  | text .noText => "the value has no text"
  | pattern fault => fault.message
  | valueNotText => "the value is not a text"
  | page _ => "the page cannot be read"
  | backend fault => fault.message
  | needsScope step consumer =>
    s!"Step '{step}': '{consumer}' needs a scope but the previous child returned a plain string"
  | exhausted step attempts last =>
    s!"Step '{step}' failed validation after {attempts} attempts" ++
      (last.map fun r => ": " ++ r.message).getD ""

end PromptTree.Workflow
