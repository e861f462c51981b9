import PromptTree.Text.Base64
import PromptTree.Yaml.Node
import PromptTree.Yaml.Number

/-!
The data that documents write. The faults of a document are looked for level by level, from the top.
-/

namespace PromptTree.Yaml

namespace Node

mutual

def height : Node → Nat
  | scalar _ _ => 1
  | list _ items => heightOfList items + 1
  | map _ entries => heightOfEntries entries + 1
termination_by structural node => node

def heightOfList : List Node → Nat
  | [] => 0
  | node :: nodes => max node.height (heightOfList nodes)
termination_by structural nodes => nodes

/-- The greatest number of levels of the nodes in some entries. -/
def heightOfEntries : List (Node × Node) → Nat
  | [] => 0
  | (key, value) :: entries => max (max key.height value.height) (heightOfEntries entries)
termination_by structural entries => entries

end

/-- The text of a node. A map with a value that stands for it has the text of that. -/
def text : Node → Except Fault String
  | scalar _ text => return text
  | list _ _ => throw .malformed
  | map _ entries => ofEntries entries
where
  /-- The text of the value that stands for a map. -/
  ofEntries : List (Node × Node) → Except Fault String
    | [] => throw .malformed
    | (key, value) :: entries => if key.tag = .default then value.text else ofEntries entries

/-- The key of an entry; the mark of a value that stands for a map is a text there. -/
def asKey : Node → Node
  | scalar .default text => scalar .text text
  | list .default items => list .text items
  | map .default entries => map .text entries
  | node => node

mutual

/-- The entries that a map takes over from other maps, and its own. -/
def split : List (Node × Node) → Except Fault (List (Node × Node) × List (Node × Node))
  | [] => return ([], [])
  | (key, value) :: entries => do
    if key.tag = .merge then
      let taken ← takenFrom value
      let (others, own) ← split entries
      return (taken ++ others, own)
    else
      let (taken, own) ← split entries
      return (taken, (key.asKey, value) :: own)
termination_by structural entries => entries

/-- The entries that are taken over from a map, or from a list of maps, where an earlier one counts more. -/
def takenFrom : Node → Except Fault (List (Node × Node))
  | scalar _ _ => throw .malformed
  | list _ items => takenFromAll items
  | map _ entries => do
    let (taken, own) ← split entries
    return taken ++ own
termination_by structural node => node

/-- The entries that are taken over from some maps; those of the last come first. -/
def takenFromAll : List Node → Except Fault (List (Node × Node))
  | [] => return []
  | node :: nodes => do
    match node with
    | map _ entries =>
      let (taken, own) ← split entries
      let rest ← takenFromAll nodes
      return rest ++ taken ++ own
    | _ => throw .malformed
termination_by structural nodes => nodes

end

/-- The entries of a map together with those that it takes over, which come first. -/
def entries : Node → Except Fault (List (Node × Node))
  | map _ entries => do
    let (taken, own) ← split entries
    return taken ++ own
  | _ => throw .malformed

def items : Node → Except Fault (List Node)
  | list _ items => return items
  | _ => throw .malformed

def pairs (node : Node) : Except Fault (List (Node × Node)) := do
  (← node.items).mapM fun
    | map _ [entry] => return entry
    | _ => throw .malformed

/-- The data of a node that is neither a list, a map nor a set. -/
def simple (node : Node) : Except Fault Value := do
  match node.tag with
  | .null =>
    discard node.text
    return .null
  | .bool => return .bool (← readBool (← node.text))
  | .int => return .int (← readInt (← node.text))
  | .float => return .float (← readFloat (← node.text))
  | .binary =>
    let cs := (← node.text).toList
    unless cs.all (·.toNat < 128) do throw .malformed
    match Text.Base64.decode cs with
    | some bytes => return .bytes bytes
    | none => throw .malformed
  | .timestamp => readTime (← node.text)
  | .text => return .text (← node.text)
  | _ => throw .malformed

def value : Nat → Node → Except Fault Value
  | 0, _ => throw .endless
  | fuel + 1, node => do
    match node.tag with
    | .list => return .list (← (← node.items).mapM (value fuel))
    | .map => return .map (Entries.ofList (← (← node.entries).mapM (pair fuel)))
    | .set =>
      let keys ← (← node.entries).mapM (pair fuel)
      return .set ((Entries.ofList keys).map (·.1))
    | .orderedMap | .pairs =>
      let pairs ← (← node.pairs).mapM (pair fuel)
      return .list (pairs.map fun (key, v) => .list [key, v])
    | _ => node.simple
where
  pair (fuel : Nat) (entry : Node × Node) : Except Fault (Value × Value) := do
    return (← value fuel entry.1, ← value fuel entry.2)

/-- The nodes inside of which faults have still to be looked for: the node itself if it is a list, a map or
a set. -/
def pending (node : Node) : Except Fault (List Node) := do
  if node.tag.isCollection then return [node]
  else
    discard node.simple
    return []

/-- The nodes inside of which faults have still to be looked for, after a list, map or set itself. -/
def inside (node : Node) : Except Fault (List Node) := do
  match node.tag with
  | .list => return (← (← node.items).mapM pending).flatten
  | .map | .set =>
    let inner ← (← node.entries).mapM fun (key, v) => do
      discard key.pending
      if key.tag.isCollection then throw .malformed
      v.pending
    return inner.flatten
  | _ =>
    let inner ← (← node.pairs).mapM fun (key, v) => do
      return (← key.pending) ++ (← v.pending)
    return inner.flatten

/-- Looks for faults in some nodes of a level, and then in the levels below. -/
def check : Nat → List Node → Except Fault Unit
  | 0, _ => return
  | fuel + 1, nodes => do
    let inner ← nodes.mapM inside
    unless inner.flatten.isEmpty do check fuel inner.flatten

def data (node : Node) : Except Fault Value := do
  check node.height (← node.pending)
  node.value node.height

end Node

/-- The data that a text writes; nothing if the text is empty. -/
def read (text : String) : Except Fault Value := do
  match ← Node.read text with
  | some node => node.data
  | none => return .null

end PromptTree.Yaml
