import PromptTree.Document.Mapping
import PromptTree.Xml.Reader

/-!
Workflows written as XML elements. An element stands for the data that describes the same part of a
workflow; attributes and elements that mean nothing are left out.
-/

namespace PromptTree.Document.Vocabulary

open Xml Reading

def space : String := "http://www.zolinga.org/ai/workflow"

def nameOf? : Node → Option String
  | .text _ => none
  | .element name _ _ => some name.inner

def noteForeign : Node → Reading Unit
  | .text _ => of ()
  | .element name _ _ => match name.space with
    | some uri => if uri = space then of () else note "" (.wrongNamespace uri)
    | none => of ()

def noteAllForeign : List Node → Reading Unit
  | [] => of ()
  | node :: nodes => do
    noteForeign node
    noteAllForeign nodes

def named (name : String) (nodes : List Node) : List Node :=
  nodes.filter fun node => nameOf? node == some name

/-- Looks for the elements of a name; each search comes across the elements of another namespace. -/
def search (name : String) (nodes : List Node) : Reading (List Node) := do
  noteAllForeign nodes
  return named name nodes

/-- The value of an element: that of its attribute, or else its text if it has any content. -/
def valueOf? (node : Node) : Option String :=
  match node.attribute? "value" with
  | some value => some value
  | none => if node.content.isEmpty then none else some node.allText

def attributeField (node : Node) (key : String) : Entries :=
  (node.attribute? key).toList.map fun value => (.text key, .text value)

/-- A field that has the value of an attribute, unless it is empty. -/
def usedAttributeField (node : Node) (key : String) : Entries :=
  ((node.attribute? key).filter (!·.isEmpty)).toList.map fun value => (.text key, .text value)

def listField (key : String) (items : List Value) : Entries :=
  if items.isEmpty then [] else [(.text key, .list items)]

def variableData (node : Node) : Reading Value := do
  let options ← search "option" node.content
  let fields := ["name", "source", "generate", "pattern", "required", "postprocess", "limit"].flatMap
    (attributeField node)
  let value :=
    if options.isEmpty then (valueOf? node).toList.map fun value => (Value.text "value", Value.text value)
    else listField "options" (options.map fun o => .text ((valueOf? o).getD ""))
  return .map (fields ++ value)

def variablesData : List Node → Reading (List Value)
  | [] => of []
  | node :: nodes => do
    let first ← variableData node
    let rest ← variablesData nodes
    return first :: rest

def testData (node : Node) : Value :=
  .map ((.text "text", .text node.allText) ::
    (attributeField node "pattern" ++ attributeField node "expect"))

mutual

def returnData (node : Node) : Reading Entries :=
  match node with
  | .text _ => of []
  | .element _ _ content => do
    noteAllForeign content
    if (named "item" content).isEmpty then return [(.text "value", .text ((valueOf? node).getD ""))]
    else return [(.text "items", .list (← itemsData content))]
termination_by structural node

def itemsData : List Node → Reading (List Value)
  | [] => of []
  | node :: nodes =>
    if nameOf? node = some "item" then do
      let item ← returnData node
      let rest ← itemsData nodes
      return .map (item ++ usedAttributeField node "name") :: rest
    else itemsData nodes
termination_by structural nodes => nodes

end

/-- The data of a prompt: the attribute if it is not empty, or else the first of the elements. -/
def promptData (node : Node) (prompts : List Node) : Entries :=
  match usedAttributeField node "prompt", prompts with
  | [], first :: _ => [(.text "prompt", .text first.allText)]
  | fields, _ => fields

/-- The data of the first of some elements for what a step returns. -/
def firstReturn : List Node → Reading Entries
  | [] => of []
  | node :: _ => do return [(.text "return", .map (← returnData node))]

mutual

def stepData (node : Node) : Reading Entries :=
  match node with
  | .text _ => of []
  | .element _ _ content => do
    let prompts ← search "prompt" content
    let declared ← variablesData (← search "var" content)
    let tests ← search "test" content
    let returns ← firstReturn (← search "return" content)
    noteAllForeign content
    let children ← stepsData content
    return usedAttributeField node "name" ++ promptData node prompts ++ listField "vars" declared ++
      listField "tests" (tests.map testData) ++ returns ++ listField "steps" children
termination_by structural node

def stepsData : List Node → Reading (List Value)
  | [] => of []
  | node :: nodes =>
    if nameOf? node = some "ai" then do
      let step ← stepData node
      let rest ← stepsData nodes
      return .map step :: rest
    else stepsData nodes
termination_by structural nodes => nodes

end

def documentOf (node : Node) : Reading (Option Document) := do
  noteForeign node
  if nameOf? node = some "ai" then
    let root ← stepData node
    let version := (node.attribute? "version").getD "1"
    Reading.document ([(.text "version", .text version), (.text "root", .map root)] ++
      attributeField node "name" ++ attributeField node "backend")
  else
    noteForeign node
    note "" (.wrongRoot ((nameOf? node).getD ""))
    return none

end Vocabulary

def ofXml (node : Xml.Node) : Except Refusal Document :=
  (Vocabulary.documentOf node).outcome

end PromptTree.Document
