import PromptTree.Scope
import PromptTree.Regex.Reader

/-!
What can be wrong with the description of a workflow.
-/

namespace PromptTree.Document

/-- The parts of a step that are described by maps of their own. -/
inductive Part where
  | step
  | variableOf
  | test
  | returned
deriving DecidableEq, Repr

def Part.name : Part → String
  | step => "step"
  | variableOf => "variable"
  | test => "test"
  | returned => "return"

/-- A mistake in the description of a workflow. Values are given as messages show them. -/
inductive Mistake where
  /-- The text is not readable, or not in the language it should be in. -/
  | unreadable (detail : String)
  | notMap
  | wrongNamespace (uri : String)
  | wrongRoot (element : String)
  | noVersion
  | wrongVersion (version : String)
  | unknownTop (key version : String)
  | topNotText (key kind : String)
  | backendsNotMap
  | backendNotMap (name : String)
  | unknownBackendField (name key : String)
  | backendOptionsNotMap (name : String)
  | contextNotMap
  | noRoot
  | partNotMap (part : Part)
  | unknownField (part : Part) (key : String)
  | stepName (kind : String)
  | promptNotText
  | notList (key : String)
  | variableName (shown : String)
  | notYesOrNo (key shown : String)
  | unknownSource (name source : String)
  | optionsNotList (name : String)
  | patternNotText
  | badPattern (shown : String)
  | noAddress (name : String)
  | unknownConversion (name shown : String)
  | badLimit (name : String)
  | noTestText
  | badExpectation (shown : String)
  | valueAndItems
  | itemsNotList
  | badReturn (kind : String)
  | itemNameNotText
  /-- A step returns a text that the step after it cannot take up. -/
  | textBeforeStep (label : String)
  /-- A step returns a text from which its parent cannot return anything. -/
  | textUnderReturn (label : String)
deriving DecidableEq, Repr

def supportedVersions : List String := ["1"]

def Mistake.message : Mistake → String
  | unreadable detail => s!"Failed to load workflow: {detail}"
  | notMap => "Workflow must be a YAML object/dictionary"
  | wrongNamespace uri => s!"Unexpected XML namespace '{uri}'"
  | wrongRoot element => s!"XML root element must be <ai>, got <{element}>"
  | noVersion => "'version' field is required"
  | wrongVersion version =>
    let supported := (Value.list (supportedVersions.map .text)).quoted
    s!"Unsupported version '{version}'. Supported: {supported}"
  | unknownTop key version => s!"Unknown field '{key}' at version '{version}'"
  | topNotText key kind => s!"'{key}' must be a string, got {kind}"
  | backendsNotMap => "'backends' must be a dictionary"
  | backendNotMap name => s!"Backend '{name}' must be a dictionary"
  | unknownBackendField name key => s!"Backend '{name}': unknown field '{key}'"
  | backendOptionsNotMap name => s!"Backend '{name}': options must be a dictionary"
  | contextNotMap => "'context' must be a dictionary"
  | noRoot => "'root' field is required"
  | partNotMap .test => "test must be a dictionary or a string"
  | partNotMap part => s!"{part.name} must be a dictionary"
  | unknownField part key => s!"unknown {part.name} field '{key}'"
  | stepName kind => s!"step name must be a string, got {kind}"
  | promptNotText => "prompt must be a string"
  | notList key => s!"'{key}' must be a list"
  | variableName shown =>
    s!"variable name {shown} must be a non-empty string without spaces, braces or pipes"
  | notYesOrNo key shown => s!"'{key}' must be yes or no, got {shown}"
  | unknownSource name source => s!"variable '{name}': unknown source '{source}'"
  | optionsNotList name => s!"variable '{name}': options must be a list"
  | patternNotText => "pattern must be a string"
  | badPattern shown => s!"invalid pattern {shown}: {Text.unworded}"
  | noAddress name => s!"download variable '{name}' requires a url"
  | unknownConversion name shown =>
    s!"download variable '{name}': unknown postprocess '{shown}'. " ++
      "Supported: ['none', 'html2md', 'html2text']"
  | badLimit name => s!"download variable '{name}': limit must be a positive integer"
  | noTestText => "test requires 'text'"
  | badExpectation shown => s!"test expect must be 'yes' or 'no', got {shown}"
  | valueAndItems => "return cannot have both 'value' and 'items'"
  | itemsNotList => "return items must be a list"
  | badReturn kind => s!"return must be a string, list or dictionary, got {kind}"
  | itemNameNotText => "return item name must be a string"
  | textBeforeStep label => s!"step '{label}' returns a plain string but is followed by another step"
  | textUnderReturn label => s!"step '{label}' returns a plain string but its parent declares a return"

structure Problem where
  path : String
  mistake : Mistake
deriving DecidableEq, Repr

/-- What keeps a description from being checked to its end. -/
inductive Obstacle where
  /-- A value that should become a text has none. -/
  | noText
  /-- The source of a variable is a list or a map. -/
  | sourceNotSimple
  /-- A pattern is too large to be read. -/
  | pattern (fault : Regex.Fault)
  | limitInfinite
deriving DecidableEq, Repr

/-- Why a description does not make a workflow. -/
inductive Refusal where
  | problems (problems : List Problem)
  | obstacle (obstacle : Obstacle)
deriving DecidableEq, Repr

/-- What has been read, and the problems found on the way. -/
def Reading (α : Type) : Type :=
  Except Obstacle (α × List Problem)

namespace Reading

def of {α : Type} (a : α) : Reading α :=
  .ok (a, [])

def andThen {α β : Type} (r : Reading α) (next : α → Reading β) : Reading β :=
  match r with
  | .error o => .error o
  | .ok (a, found) => match next a with
    | .error o => .error o
    | .ok (b, more) => .ok (b, found ++ more)

instance : Monad Reading where
  pure := of
  bind := andThen

def note (path : String) (mistake : Mistake) : Reading Unit :=
  .ok ((), [⟨path, mistake⟩])

def stop {α : Type} (obstacle : Obstacle) : Reading α :=
  .error obstacle

def text (v : Value) : Reading String :=
  match v.toText with
  | .ok s => of s
  | .error _ => stop .noText

end Reading

end PromptTree.Document
