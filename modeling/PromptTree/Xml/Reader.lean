import PromptTree.Text.Newline
import PromptTree.Xml.Basic
import PromptTree.Xml.Doctype

/-!
Reading XML documents.
-/

namespace PromptTree.Xml

/-- The namespaces that prefixes stand for; the empty prefix stands for the names without one. -/
abbrev Bindings := List (String × String)

namespace Bindings

def xmlSpace : String := "http://www.w3.org/XML/1998/namespace"

def bindingSpace : String := "http://www.w3.org/2000/xmlns/"

def initial : Bindings := [("xml", xmlSpace)]

def bind? (bindings : Bindings) (pre uri : String) : Option Bindings := do
  guard (!uri.toList.contains '\x7d')
  guard (pre ≠ "xmlns" && uri ≠ bindingSpace)
  guard ((pre = "xml") = (uri = xmlSpace))
  guard (pre.isEmpty || !uri.isEmpty)
  return (pre, uri) :: bindings

/-- Takes up the bindings among the attributes of an element, and gives back the others. -/
def takeUp (bindings : Bindings) :
    List ((Option String × String) × String) → Option (Bindings × List ((Option String × String) × String))
  | [] => some (bindings, [])
  | ((none, "xmlns"), uri) :: rest => do takeUp (← bindings.bind? "" uri) rest
  | ((some "xmlns", pre), uri) :: rest => do takeUp (← bindings.bind? pre uri) rest
  | other :: rest => do
    let (bindings, others) ← bindings.takeUp rest
    return (bindings, other :: others)

def elementName (bindings : Bindings) : Option String × String → Option Name
  | (none, inner) => some ⟨(bindings.lookup "").filter (!·.isEmpty), inner⟩
  | (some pre, inner) => (bindings.lookup pre).map fun uri => ⟨some uri, inner⟩

def attributeName (bindings : Bindings) : Option String × String → Option Name
  | (none, inner) => some ⟨none, inner⟩
  | (some pre, inner) => (bindings.lookup pre).map fun uri => ⟨some uri, inner⟩

end Bindings

def allDistinct {α : Type} [BEq α] : List α → Bool
  | [] => true
  | a :: as => !as.contains a && allDistinct as

namespace Lexer

/-- The attributes of a tag up to its end, and whether the tag closes its element. Each value is a text in
which entities are not opened yet. -/
def attributes : Nat → Lexer (List ((Option String × String) × List Char) × Bool)
  | 0 => failure
  | fuel + 1 => do
    let gap ← run isSpace
    if ← tries ">" then return ([], false)
    else if ← tries "/" then
      exactly ">"
      return ([], true)
    else
      if gap.isEmpty then failure
      let name ← qualifiedName
      spaces
      exactly "="
      spaces
      let value ← quotedText
      let (rest, closed) ← attributes fuel
      return ((name, value) :: rest, closed)

/-- The start of an element after its opening mark: its written name, its own name, its attributes, whether
it has ended already, and the bindings for its content. -/
def start (doctype : Doctype) (bindings : Bindings) :
    Lexer ((Option String × String) × Name × List (Name × String) × Bool × Bindings) := do
  let written ← qualifiedName
  let (given, closed) ← attributes ((← get).length + 1)
  unless allDistinct (given.map (·.1)) do failure
  let values ← given.mapM fun (name, text) => do
    match doctype.attributeValue (doctype.rule? written name) text with
    | some value => return (name, value)
    | none => failure
  let further := doctype.rules.filterMap fun r => do
    guard (r.element == written && !given.any (·.1 == r.name))
    let value ← r.default
    return (r.name, String.ofList value)
  match bindings.takeUp (values ++ further) with
  | none => failure
  | some (inside, others) =>
    match inside.elementName written, others.mapM fun (n, v) => (inside.attributeName n).map (·, v) with
    | some name, some named =>
      unless allDistinct (named.map (·.1)) do failure
      return (written, name, named, closed, inside)
    | _, _ => failure

/-- A text that no element follows inside of it; what closes a marked section cannot stand in it. -/
def plainText : Lexer String := do
  let cs ← run fun c => c ≠ '<' && c ≠ '&'
  if !cs.all isChar || Text.contains "]]>".toList cs then failure
  return .ofList cs

def textNode (s : String) : List Node :=
  if s.isEmpty then [] else [.text s]

mutual

/-- The content of an element or an entity, up to what closes an element or to the end. -/
def content (doctype : Doctype) (bindings : Bindings) (depth fuel : Nat) : Lexer (List Node) := fun cs =>
  match fuel with
  | 0 => none
  | fuel + 1 =>
    match cs with
    | [] => some ([], [])
    | '<' :: '/' :: _ => some ([], cs)
    | '<' :: '!' :: '-' :: '-' :: rest => do
      let (_, rest) ← comment rest
      content doctype bindings depth fuel rest
    | '<' :: '!' :: rest => do
      let (_, rest) ← exactly "[CDATA[" rest
      let (text, rest) ← upTo "]]>" rest
      let (nodes, rest) ← content doctype bindings depth fuel rest
      return (textNode (.ofList text) ++ nodes, rest)
    | '<' :: '?' :: rest => do
      let (_, rest) ← instruction rest
      content doctype bindings depth fuel rest
    | '<' :: rest => do
      let (node, rest) ← element doctype bindings depth fuel rest
      let (nodes, rest) ← content doctype bindings depth fuel rest
      return (node :: nodes, rest)
    | '&' :: rest => do
      let (r, rest) ← reference rest
      let inner ← match doctype.meaning? r, depth with
        | some (.char c), _ => some [.text (.singleton c)]
        | some (.entity (.inner text)), depth + 1 =>
          match content doctype bindings depth (text.length + 1) (Text.normalizeNewlines text) with
          | some (nodes, []) => some nodes
          | _ => none
        | _, _ => none
      let (nodes, rest) ← content doctype bindings depth fuel rest
      return (inner ++ nodes, rest)
    | _ => do
      let (text, rest) ← plainText cs
      let (nodes, rest) ← content doctype bindings depth fuel rest
      return (textNode text ++ nodes, rest)
termination_by (depth, fuel, 0)

def element (doctype : Doctype) (bindings : Bindings) (depth fuel : Nat) : Lexer Node := fun cs => do
  let ((written, name, attributes, closed, inside), rest) ← start doctype bindings cs
  if closed then return (.element name attributes [], rest)
  let (nodes, rest) ← content doctype inside depth fuel rest
  let (_, rest) ← exactly "</" rest
  let (again, rest) ← qualifiedName rest
  if again ≠ written then failure
  let (_, rest) ← spaces rest
  let (_, rest) ← exactly ">" rest
  return (.element name attributes nodes, rest)
termination_by (depth, fuel, 1)

end

def document : Lexer Node := do
  let standsAlone ← declaration
  misc
  let doctype ← Doctype.read standsAlone
  misc
  exactly "<"
  let node ← element doctype .initial doctype.entities.length ((← get).length + 1)
  misc
  unless (← get).isEmpty do failure
  return node

end Lexer

/-- The element that a document holds, if the document is well formed. -/
def read (text : String) : Option Node :=
  let cs := Text.normalizeNewlines text.toList
  let cs := if cs.head? = some '\uFEFF' then cs.tail else cs
  Lexer.document.run' cs

end PromptTree.Xml
