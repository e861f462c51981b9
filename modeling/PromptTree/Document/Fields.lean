import PromptTree.Document.Problem
import PromptTree.Text.Digit
import PromptTree.Workflow.Step

/-!
The parts of a step that have no parts of their own: variables, tests, and the values of their fields.
-/

namespace PromptTree.Document.Reading

/-- Notes every key that is not among some fields, as the mistake that it is. -/
def knownKeys (path : String) (unknown : String → Mistake) (fields : List String) : Entries → Reading Unit
  | [] => of ()
  | (key, _) :: rest => do
    unless key.asText?.any fields.contains do note path (unknown key.shown)
    knownKeys path unknown fields rest

/-- Notes every key that is not among the fields of a part. -/
def knownFields (path : String) (part : Part) (fields : List String) : Entries → Reading Unit :=
  knownKeys path (.unknownField part) fields

def fieldOf (entries : Entries) (key : String) : Value :=
  (Entries.get? entries key).getD .null

/-- The value of a field, if it amounts to something. -/
def usedField? (entries : Entries) (key : String) : Option Value :=
  (Entries.get? entries key).filter Value.isTruthy

def yesValues : List Value := [.bool true, .text "yes", .text "true", .text "1"]

def noValues : List Value := [.bool false, .null, .text "", .text "no", .text "false", .text "0"]

def flag (path key : String) (v : Value) : Reading Bool :=
  if yesValues.any v.same then of true
  else if noValues.any v.same then of false
  else do
    note path (.notYesOrNo key v.quoted)
    return false

def pattern (path : String) : Value → Reading (Option String)
  | .null => of none
  | .text s =>
    if s.isEmpty then of none
    else match Regex.fault? s with
      | none => of (some s)
      -- A pattern that is none is kept all the same: the note alone refuses the description.
      | some .malformed => do
        note path (.badPattern (Value.text s).quoted)
        return some s
      | some fault => stop (.pattern fault)
  | _ => do
    note path .patternNotText
    return none

/-- A character that can be part of the name of a variable. -/
def isNameChar (c : Char) : Bool :=
  !Text.isBlank c && !(['$', '\x7b', '\x7d', '|'].contains c)

/-- A text that can be the name of a variable. A line end after it does not matter. -/
def isName (name : String) : Bool :=
  let cs := name.toList
  let cs := if cs.getLast? = some '\n' then cs.dropLast else cs
  !cs.isEmpty && cs.all isNameChar

/-- The whole number that the limit of a download is given as. -/
def wholeNumber : Value → Reading (Option Int)
  | .float x => match x.truncate? with
    | some n => of (some n)
    | none => match x with
      | .infinite _ => stop .limitInfinite
      | _ => of none
  | .text s => of (Text.readInt? s)
  | .bytes content =>
    let cs := content.map fun b => Char.ofNat b.toNat
    of (Text.readTrimmedInt? (Text.trimWhile Text.isAsciiBlank cs))
  | v => of v.toInt?

def limit (path name : String) : Value → Reading (Option Int)
  | .null => of none
  | v => do
    match ← wholeNumber v with
    | some n => if 0 < n then return some n
    | none => pure ()
    note path (.badLimit name)
    return none

def variableFields : List String :=
  ["name", "source", "generate", "value", "url", "pattern", "required", "options", "postprocess", "limit"]

/-- Where the value of a variable comes from. -/
inductive Source where
  | fixed
  | generated
  | download
deriving DecidableEq, Repr

def Source.named? : String → Option Source
  | "local" => some fixed
  | "ai" => some generated
  | "download" => some download
  | _ => none

/-- The source that a variable names; a variable that is to be generated needs no name of a source. -/
def source (path name : String) (entries : Entries) : Reading (Option Source) := do
  let given := usedField? entries "source"
  if ← flag path "generate" (fieldOf entries "generate") then return some .generated
  match given with
  | none => return some .fixed
  | some v =>
    if v.asList?.isSome || v.asMap?.isSome then stop .sourceNotSimple
    match v.asText?.bind Source.named? with
    | some source => return some source
    | none =>
      note path (.unknownSource name v.shown)
      return none

def options (path name : String) (entries : Entries) : Reading (List Value) :=
  match usedField? entries "options" with
  | none => of []
  | some (.list items) => of items
  | some _ => do
    note path (.optionsNotList name)
    return []

def texts : List Value → Reading (List String)
  | [] => of []
  | v :: vs => do
    let s ← text v
    let rest ← texts vs
    return s :: rest

def generated (path name : String) (entries : Entries) : Reading Generated := do
  let options ← options path name entries
  let pattern ← pattern path (fieldOf entries "pattern")
  let required ← flag path "required" (fieldOf entries "required")
  return { name, pattern, required, options := ← texts options }

def conversion (path name : String) (entries : Entries) : Reading Html.Conversion :=
  match usedField? entries "postprocess" with
  | none => of .none
  | some v => match v.asText?.bind Html.Conversion.named? with
    | some c => of c
    | none => do
      note path (.unknownConversion name v.shown)
      return .none

def download (path name : String) (entries : Entries) : Reading (Option Download) := do
  let address := (Entries.get? entries "url").getD (fieldOf entries "value")
  match (address.asText?.map Text.trim).filter (!·.isEmpty) with
  | none =>
    note path (.noAddress name)
    return none
  | some source =>
    let conversion ← conversion path name entries
    let limit ← limit path name (fieldOf entries "limit")
    return some { name, source, conversion, limit }

def named (path name : String) (entries : Entries) : Reading (Option Declaration) := do
  match ← source path name entries with
  | none => return none
  | some .generated => return some (.generated (← generated path name entries))
  | some .download => return (← download path name entries).map .download
  | some .fixed => return some (.fixed name (← text (fieldOf entries "value")))

def declaration (path : String) : Value → Reading (Option Declaration)
  | .map entries => do
    knownFields path .variableOf variableFields entries
    let name := fieldOf entries "name"
    match name.asText?.filter isName with
    | some name => named path name entries
    | none =>
      note path (.variableName name.quoted)
      return none
  | _ => do
    note path (.partNotMap .variableOf)
    return none

def testFields : List String := ["text", "pattern", "expect"]

def expectation (path : String) (entries : Entries) : Reading String :=
  match usedField? entries "expect" with
  | none => of "yes"
  | some v => match v.asText?.filter ["yes", "no"].contains with
    | some s => of s
    | none => do
      note path (.badExpectation v.quoted)
      return "yes"

def testOf (path : String) (entries : Entries) : Reading (Option Validator) := do
  knownFields path .test testFields entries
  match fieldOf entries "text" with
  | .text s =>
    let expect ← expectation path entries
    let pattern ← pattern path (fieldOf entries "pattern")
    return some { text := s, pattern, expect }
  | _ =>
    note path .noTestText
    return none

def test (path : String) : Value → Reading (Option Validator)
  | .text s => testOf path [(.text "text", .text s)]
  | .map entries => testOf path entries
  | _ => do
    note path (.partNotMap .test)
    return none

/-- The items of a list, each read at its place; what cannot be read is left out. -/
def numbered {α : Type} (read : String → Value → Reading (Option α)) (path key : String) (i : Nat) :
    List Value → Reading (List α)
  | [] => of []
  | v :: vs => do
    let a ← read s!"{path}.{key}[{i}]" v
    let rest ← numbered read path key (i + 1) vs
    return a.toList ++ rest

def listField (path key : String) : Value → Reading (List Value)
  | .null => of []
  | .list items => of items
  | _ => do
    note path (.notList key)
    return []

end PromptTree.Document.Reading
