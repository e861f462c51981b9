import PromptTree.Html.Conversion
import PromptTree.Scope

/-!
Workflows: trees of steps. Main statement: a declaration of a generated variable counts unless a later
one has its name (`Generated.lastOf`).
-/

namespace PromptTree

structure Generated where
  name : String
  /-- What the value has to match, if it is not empty. -/
  pattern : Option String
  /-- The value must not be empty. -/
  required : Bool
  /-- What the value has to be one of, if there are any. -/
  options : List String
deriving DecidableEq, Repr

structure Download where
  name : String
  /-- The template of the address. -/
  source : String
  conversion : Html.Conversion
  /-- How many characters are kept. -/
  limit : Option Int
deriving DecidableEq, Repr

inductive Declaration where
  | fixed (name : String) (template : String)
  | generated (g : Generated)
  | download (d : Download)
deriving DecidableEq, Repr

def Declaration.name : Declaration → String
  | fixed name _ => name
  | generated g => g.name
  | download d => d.name

/-- A check of what the backend has filled in: by a pattern, or by a question to the backend. -/
structure Validator where
  text : String
  pattern : Option String
  /-- The verdict that accepts. -/
  expect : String
deriving DecidableEq, Repr

/-- The pattern that a text is searched for; an empty one does not count. -/
def usedPattern (pattern : Option String) : Option String :=
  pattern.filter (!·.isEmpty)

def Validator.byPattern (v : Validator) : Bool := (usedPattern v.pattern).isSome

/-- What a step returns: a text, or a record of named and unnamed items. -/
inductive Projection where
  | leaf (template : Option String)
  | record (items : List (Option String × Projection))
deriving Inhabited

def Projection.isLeaf : Projection → Bool
  | leaf _ => true
  | record _ => false

/-- The projection of some items; without items there is only an empty text. -/
def Projection.ofItems : List (Option String × Projection) → Projection
  | [] => .leaf none
  | items => .record items

structure Step where
  name : String
  prompt : Option String
  declarations : List Declaration
  validators : List Validator
  returns : Option Projection
  children : List Step
deriving Inhabited

/-- The generated variables that count: a later one takes the place of an earlier one of its name, at the
end. -/
def Generated.lastOf : List Generated → List Generated
  | [] => []
  | g :: gs => if gs.any (·.name == g.name) then lastOf gs else g :: lastOf gs

namespace Step

def label (step : Step) : String :=
  if step.name.isEmpty then "<unnamed>" else step.name

/-- Names and templates of the variables with a fixed value. -/
def fixedVariables (step : Step) : List (String × String) :=
  step.declarations.filterMap fun
    | .fixed name template => some (name, template)
    | _ => none

def downloads (step : Step) : List Download :=
  step.declarations.filterMap fun
    | .download d => some d
    | _ => none

def generatedVariables (step : Step) : List Generated :=
  Generated.lastOf (step.declarations.filterMap fun
    | .generated g => some g
    | _ => none)

/-- The validators in the order in which they are run: those with a pattern come first. -/
def orderedValidators (step : Step) : List Validator :=
  step.validators.filter (·.byPattern) ++ step.validators.filter (!·.byPattern)

def usedPrompt (step : Step) : Option String :=
  step.prompt.filter (!·.isEmpty)

mutual

/-- The step returns a text: because it says so, or because its last child does. -/
def yieldsText : Step → Bool
  | ⟨_, _, _, _, some returns, _⟩ => returns.isLeaf
  | ⟨_, _, _, _, none, children⟩ => lastYieldsText children
termination_by structural s => s

def lastYieldsText : List Step → Bool
  | [] => false
  | step :: steps => if steps.isEmpty then step.yieldsText else lastYieldsText steps
termination_by structural steps => steps

end

def judge (question : String) : Step where
  name := "validator"
  prompt := some question
  declarations :=
    [.generated ⟨"answer", none, true, ["yes", "no"]⟩, .generated ⟨"answerExplanation", none, true, []⟩]
  validators := []
  returns := none
  children := []

end Step

structure Document where
  name : String
  version : String
  /-- The name of the backend that is asked. -/
  backend : String
  /-- The backends that the workflow brings. -/
  backends : Entries
  context : Scope
  root : Step

end PromptTree
