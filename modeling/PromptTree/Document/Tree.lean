import PromptTree.Document.Fields

/-!
Steps and what they return, read from data. Every part is read at its place, so that a problem names the
place where it was found.
-/

namespace PromptTree.Document.Reading

def returnFields : List String := ["name", "value", "items"]

def leaf (v : Value) : Reading Projection := do
  return .leaf (some (← text v))

def itemName (path : String) : Value → Reading (Option String)
  | .map entries => match fieldOf entries "name" with
    | .null => of none
    | .text s => of (if s.isEmpty then none else some s)
    | _ => do
      note path .itemNameNotText
      return none
  | _ => of none

mutual

def projection (path : String) : Value → Reading Projection
  | .list items => do return .ofItems (← items' path 0 items)
  | .map entries => do
    knownFields path .returned returnFields entries
    match ← itemsField path ((Entries.get? entries "value").isSome) entries with
    | some p => return p
    | none => leaf (fieldOf entries "value")
  | .null => leaf .null
  | .bool b => leaf (.bool b)
  | .int n => leaf (.int n)
  | .float x => leaf (.float x)
  | .text s => leaf (.text s)
  | v => do
    note path (.badReturn v.kindName)
    return .leaf none
termination_by structural v => v

/-- The items that are returned, if there is a field of that name. -/
def itemsField (path : String) (hasValue : Bool) :
    List (Value × Value) → Reading (Option Projection)
  | [] => of none
  | (key, v) :: rest =>
    -- The field is looked for here, and not by `get?`, so that the recursion is on the data.
    if key.same (.text "items") then do
      if hasValue then note path .valueAndItems
      some <$> itemList path v
    else itemsField path hasValue rest
termination_by structural entries => entries

def itemList (path : String) : Value → Reading Projection
  | .list items => do return .ofItems (← items' path 0 items)
  | _ => do
    note path .itemsNotList
    return .leaf none
termination_by structural v => v

def items' (path : String) (i : Nat) : List Value → Reading (List (Option String × Projection))
  | [] => of []
  | v :: vs => do
    let place := s!"{path}.items[{i}]"
    let name ← itemName place v
    let p ← projection place v
    let rest ← items' path (i + 1) vs
    return (name, p) :: rest
termination_by structural vs => vs

end

def stepFields : List String := ["name", "prompt", "vars", "tests", "return", "steps"]

def stepName (path : String) (entries : Entries) : Reading String :=
  match usedField? entries "name" with
  | none => of ""
  | some (.text s) => of s
  | some v => do
    note path (.stepName v.kindName)
    return ""

def prompt (path : String) (entries : Entries) : Reading (Option String) :=
  match fieldOf entries "prompt" with
  | .null => of none
  | .text s => of (if s.isEmpty then none else some s)
  | _ => do
    note path .promptNotText
    return none

/-- What a step returns, if it returns anything of its own. -/
def returned (path : String) (entries : Entries) : Reading (Option Projection) :=
  match Entries.get? entries "return" with
  | some v => some <$> projection s!"{path}.return" v
  | none => of none

/-- Notes every step that returns a text, unless it is the last one and its parent returns nothing of
its own. -/
def textResults (path : String) (parentReturns : Bool) (i : Nat) : List Step → Reading Unit
  | [] => of ()
  | step :: steps => do
    if step.yieldsText then
      -- The number is that among the steps that have been read, not that in the list of the data.
      if !steps.isEmpty then note s!"{path}.steps[{i}]" (.textBeforeStep step.label)
      else if parentReturns then note s!"{path}.steps[{i}]" (.textUnderReturn step.label)
    textResults path parentReturns (i + 1) steps

mutual

def step (path : String) : Value → Reading (Option Step)
  | .map entries => do
    knownFields path .step stepFields entries
    let name ← stepName path entries
    let path := if name.isEmpty then path else s!"{path}[{name}]"
    let prompt ← prompt path entries
    let declarations ←
      numbered declaration path "vars" 0 (← listField path "vars" (fieldOf entries "vars"))
    let validators ← numbered test path "tests" 0 (← listField path "tests" (fieldOf entries "tests"))
    let returns ← returned path entries
    let children ← childrenOf path entries
    textResults path returns.isSome 0 children
    return some { name, prompt, declarations, validators, returns, children }
  | _ => do
    note path (.partNotMap .step)
    return none
termination_by structural v => v

def childrenOf (path : String) : List (Value × Value) → Reading (List Step)
  | [] => of []
  | (key, v) :: rest => if key.same (.text "steps") then stepList path v else childrenOf path rest
termination_by structural entries => entries

def stepList (path : String) : Value → Reading (List Step)
  | .null => of []
  | .list items => steps path 0 items
  | _ => do
    note path (.notList "steps")
    return []
termination_by structural v => v

/-- Some children of a step; what cannot be read is left out. -/
def steps (path : String) (i : Nat) : List Value → Reading (List Step)
  | [] => of []
  | v :: vs => do
    let child ← step s!"{path}.steps[{i}]" v
    let rest ← steps path (i + 1) vs
    return child.toList ++ rest
termination_by structural vs => vs

end

end PromptTree.Document.Reading
