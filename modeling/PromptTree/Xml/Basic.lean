/-!
Trees of XML elements.
-/

namespace PromptTree.Xml

/-- A name, and the namespace that it belongs to. -/
structure Name where
  space : Option String
  inner : String
deriving DecidableEq, Repr

/-- A part of a document: text that is not empty, or an element. -/
inductive Node where
  | text (content : String)
  | element (name : Name) (attributes : List (Name × String)) (content : List Node)
deriving Inhabited

namespace Node

def content : Node → List Node
  | text _ => []
  | element _ _ content => content

/-- The value of an attribute that belongs to no namespace. -/
def attribute? (node : Node) (name : String) : Option String :=
  match node with
  | text _ => none
  | element _ attributes _ => attributes.lookup ⟨none, name⟩

mutual

def allText : Node → String
  | text content => content
  | element _ _ content => textOf content
termination_by structural node => node

def textOf : List Node → String
  | [] => ""
  | node :: nodes => node.allText ++ textOf nodes
termination_by structural nodes => nodes

end

end Node

end PromptTree.Xml
