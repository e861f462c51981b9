import PromptTree.Html.Token
import PromptTree.Text.Blank

/-!
Pages as trees. Elements end where a tag closes them or an element around them; nothing else closes an
element.
-/

namespace PromptTree.Html

inductive Node where
  /-- Text; `aside` if it does not belong to what the page says. -/
  | text (content : String) (aside : Bool)
  | note (kind : NoteKind) (content : String)
  | element (name : String) (attributes : List (String × String)) (children : List Node)
deriving Inhabited

namespace Node

/-- Elements that have no content. -/
def emptyNames : List String :=
  ["area", "base", "br", "col", "embed", "hr", "img", "input", "keygen", "link", "menuitem", "meta",
   "param", "source", "track", "wbr", "basefont", "bgsound", "command", "frame", "image", "isindex",
   "nextid", "spacer"]

/-- Elements whose text does not belong to what the page says. -/
def asideNames : List String := ["rt", "rp", "template", "script", "style"]

def preformattedNames : List String := ["pre", "textarea"]

/-- An element that is still open; the children are those so far, the last first. -/
structure Open where
  name : String
  attributes : List (String × String)
  children : List Node

def Open.close (o : Open) : Node :=
  .element o.name o.attributes o.children.reverse

/-- A tree that is being built: the nodes outside of all open elements, the last first, the open
elements, the innermost first, the text that goes on, and the empty elements that may still be closed by
a tag of their own. -/
structure Builder where
  roots : List Node
  stack : List Open
  pending : Option (List Char)
  closedEmpty : List String

namespace Builder

def add (b : Builder) (node : Node) : Builder :=
  match b.stack with
  | [] => { b with roots := node :: b.roots }
  | o :: os => { b with stack := { o with children := node :: o.children } :: os }

/-- Blanks alone become one blank, outside of elements in which they count. -/
def settleText (b : Builder) (content : List Char) : List Char :=
  if content.all (· ∈ [' ', '\n', '\t', '\x0c', '\r']) &&
    !b.stack.any (preformattedNames.contains ·.name) then
    if '\n' ∈ content then ['\n'] else [' ']
  else content

/-- Ends the text that goes on; it is the content of a note if a kind is given. -/
def flush (b : Builder) (kind : Option NoteKind) : Builder :=
  match b.pending with
  | none => b
  | some content =>
    let content := String.ofList (b.settleText content)
    let node := match kind with
      | some kind => Node.note kind content
      | none => .text content (b.stack.any (asideNames.contains ·.name))
    { b with pending := none }.add node

def pop (b : Builder) : Builder :=
  match b.stack with
  | [] => b
  | o :: os => { b with stack := os }.add o.close

def popMany (b : Builder) : Nat → Builder
  | 0 => b
  | n + 1 => b.pop.popMany n

/-- Closes the innermost element of a name and those in it. -/
def close (b : Builder) (name : String) : Builder :=
  let b := b.flush none
  match b.stack.findIdx? (·.name == name) with
  | some i => b.popMany (i + 1)
  | none => b

/-- Closes an element, unless the tag only repeats that an empty element is closed. -/
def closeByTag (b : Builder) (name : String) : Builder :=
  if name ∈ b.closedEmpty then { b with closedEmpty := b.closedEmpty.erase name } else b.close name

def settleAttributes (attributes : List (String × String)) : List (String × String) :=
  attributes.foldl (fun settled (name, value) =>
    if settled.any (·.1 == name) then settled.map fun (n, v) => if n == name then (n, value) else (n, v)
    else settled ++ [(name, value)]) []

def openElement (b : Builder) (name : String) (attributes : List (String × String)) : Builder :=
  let b := b.flush none
  { b with stack := ⟨name, settleAttributes attributes, []⟩ :: b.stack }

def step (b : Builder) : Token → Builder
  | .text content => { b with pending := some (b.pending.getD [] ++ content) }
  | .note kind content => { b.flush none with pending := some content }.flush (some kind)
  | .closing name => b.closeByTag name
  | .opening name attributes true => (b.openElement name attributes).closeByTag name
  | .opening name attributes false =>
    let b := b.openElement name attributes
    if name ∈ emptyNames then
      let b := b.close name
      { b with closedEmpty := b.closedEmpty ++ [name] }
    else b

end Builder

def ofTokens (tokens : List Token) : List Node :=
  let b := (tokens.foldl Builder.step ⟨[], [], none, []⟩).flush none
  (b.popMany b.stack.length).roots.reverse

def read (page : String) : Except Rejected (List Node) := do
  return ofTokens (← tokens page.toList)

/-! ### Writing -/

def escapeChar : Char → List Char
  | '&' => "&amp;".toList
  | '<' => "&lt;".toList
  | '>' => "&gt;".toList
  | c => [c]

def escape (text : String) : List Char := text.toList.flatMap escapeChar

def quotedValue (value : String) : List Char :=
  let escaped := escape value
  if '"' ∈ escaped then
    if '\'' ∈ escaped then
      '"' :: escaped.flatMap (fun c => if c = '"' then "&quot;".toList else [c]) ++ ['"']
    else '\'' :: escaped ++ ['\'']
  else '"' :: escaped ++ ['"']

def renderAttributes (attributes : List (String × String)) : List Char :=
  attributes.flatMap fun (name, value) => ' ' :: name.toList ++ '=' :: quotedValue value

def renderNote (content : String) : NoteKind → List Char
  | .comment => "<!--".toList ++ content.toList ++ "-->".toList
  | .doctype => "<!DOCTYPE ".toList ++ content.toList ++ ['>', '\n']
  | .section => "<![CDATA[".toList ++ content.toList ++ "]]>".toList
  | .declaration => "<?".toList ++ content.toList ++ "?>".toList
  | .instruction => "<?".toList ++ content.toList ++ ['>']

mutual

def render : Node → List Char
  | text content _ => escape content
  | note kind content => renderNote content kind
  | element name attributes children =>
    let opening := '<' :: name.toList ++ renderAttributes attributes
    if children.isEmpty && emptyNames.contains name then opening ++ ['/', '>']
    else opening ++ '>' :: renderAll children ++ '<' :: '/' :: name.toList ++ ['>']
termination_by structural n => n

def renderAll : List Node → List Char
  | [] => []
  | n :: ns => n.render ++ renderAll ns
termination_by structural ns => ns

end

/-! ### Looking around -/

def name? : Node → Option String
  | element name _ _ => some name
  | _ => none

mutual

def pruneAll (names : List String) : List Node → List Node
  | [] => []
  | n :: ns => n.prune names ++ pruneAll names ns
termination_by structural ns => ns

/-- The node without the elements of some names; nothing if it is one itself. -/
def prune (names : List String) : Node → List Node
  | element name attributes children =>
    if names.contains name then [] else [.element name attributes (pruneAll names children)]
  | n => [n]
termination_by structural n => n

end

mutual

/-- The elements that pass, the node itself among them, in the order of the page. -/
def elements (passes : Node → Bool) : Node → List Node
  | element name attributes children =>
    let rest := elementsOfAll passes children
    if passes (.element name attributes children) then .element name attributes children :: rest
    else rest
  | _ => []
termination_by structural n => n

def elementsOfAll (passes : Node → Bool) : List Node → List Node
  | [] => []
  | n :: ns => n.elements passes ++ elementsOfAll passes ns
termination_by structural ns => ns

end

def isNamed (names : List String) (n : Node) : Bool :=
  n.name?.any names.contains

mutual

/-- The texts that the node says, in the order of the page. -/
def texts : Node → List String
  | text content aside => if aside then [] else [content]
  | note kind content => if kind = .section then [content] else []
  | element _ _ children => textsOfAll children
termination_by structural n => n

/-- The texts that the nodes say, in the order of the page. -/
def textsOfAll : List Node → List String
  | [] => []
  | n :: ns => n.texts ++ textsOfAll ns
termination_by structural ns => ns

end

/-- What a page is about, without scripts and styles: its first `main`, else its first `body`, else
everything. -/
def mainContent (page : List Node) : List Node :=
  let page := pruneAll ["script", "style"] page
  match elementsOfAll (isNamed ["main"]) page with
  | main :: _ => [main]
  | [] =>
    match elementsOfAll (isNamed ["body"]) page with
    | body :: _ => [body]
    | [] => page

end Node

/-- The text that a page says, a line for each stretch of it. -/
def plainText (page : String) : Except Rejected String := do
  let texts := Node.textsOfAll (Node.mainContent (← Node.read page))
  return String.intercalate "\n" ((texts.map Text.trim).filter (!·.isEmpty))

end PromptTree.Html
