import PromptTree.Regex.Search
import PromptTree.Workflow.Rejection

/-!
Checking the variables that a backend has filled in: required ones first of all, then patterns, then
options, variable after variable.
-/

namespace PromptTree.Workflow

def shownLength : Nat := 500

def beginning (length : Nat) (text : String) : String :=
  .ofList (text.toList.take length)

def isFound (options : Regex.Options) (pattern text : String) : Except Fault Bool :=
  match Regex.read options pattern with
  | .ok regex => .ok (regex.foundIn text)
  | .error fault => .error (.pattern fault)

/-- The value of a generated variable; an absent or empty one is the empty text. -/
def valueOf (values : Entries) (name : String) : Value :=
  match values.get? name with
  | some v => if v.isTruthy then v else .text ""
  | none => .text ""

/-- The value has a match of the pattern. A line end is a character like any other. -/
def matchesPattern (pattern : String) (value : Value) : Except Fault Bool :=
  match Regex.read { dotAll := true } pattern, value with
  | .error fault, _ => .error (.pattern fault)
  | .ok regex, .text s => .ok (regex.foundIn s)
  | .ok _, _ => .error .valueNotText

def isAmong (options : List String) (value : Value) : Bool :=
  value.asText?.any options.contains

def checkVariable (values : Entries) (g : Generated) : Except Fault (Option Rejection) := do
  let value := valueOf values g.name
  if !value.isTruthy && g.required then
    match (Value.map values).toJson? Json.plain with
    | some shown => return some (.missing g.name (beginning shownLength shown))
    | none => throw (.text .noText)
  else
    let found ← match usedPattern g.pattern with
      | some pattern => matchesPattern pattern value
      | none => pure true
    if !found then return some (.unmatched g.name (g.pattern.getD "") value.shown)
    else if !g.options.isEmpty && !isAmong g.options value then
      return some (.notAnOption g.name g.options value.shown)
    else return none

def checkGenerated (values : Entries) : List Generated → Except Fault (Option Rejection)
  | [] => .ok none
  | g :: gs => do
    match ← checkVariable values g with
    | some rejection => return some rejection
    | none => checkGenerated values gs

end PromptTree.Workflow
