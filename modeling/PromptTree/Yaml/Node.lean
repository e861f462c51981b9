import PromptTree.Yaml.Tag
import PromptTree.Yaml.Token

/-!
Documents as trees of nodes. A name for a node stands for the node itself wherever it is used.
-/

namespace PromptTree.Yaml

/-- A node: a text, a list or a map, marked as a kind of data. -/
inductive Node where
  | scalar (tag : Tag) (text : String)
  | list (tag : Tag) (items : List Node)
  | map (tag : Tag) (entries : List (Node × Node))

namespace Node

def tag : Node → Tag
  | scalar tag _ | list tag _ | map tag _ => tag

def empty : Node := scalar .null ""

instance : Inhabited Node := ⟨empty⟩

end Node

/-- What is left of a document, and what has been named in it. -/
structure Remainder where
  tokens : List Token
  /-- The nodes that have names; one that is not complete is missing. -/
  anchors : List (String × Option Node)
  /-- What the handles of tags stand for. -/
  handles : List (String × String)

namespace Remainder

abbrev Parse := StateT Remainder (Except Fault)

def fail {α : Type} : Parse α :=
  throw .malformed

def peek : Parse (Option Token) := do
  return (← get).tokens.head?

def drop : Parse Unit :=
  modify fun r => { r with tokens := r.tokens.tail }

def isAt (ts : List Token) : Parse Bool := do
  return (← peek).any ts.contains

def tries (t : Token) : Parse Bool := do
  if ← isAt [t] then
    drop
    return true
  else return false

def anchor : Parse (Option String) := do
  match ← peek with
  | some (.anchor name) =>
    drop
    return some name
  | _ => return none

def tag : Parse (Option String) := do
  match ← peek with
  | some (.tag none suffix) =>
    drop
    return some suffix
  | some (.tag (some handle) suffix) =>
    drop
    match (← get).handles.lookup handle with
    | some lead => return some (lead ++ suffix)
    | none => fail
  | _ => return none

def properties : Parse (Option String × Option String) := do
  match ← anchor with
  | some name => return (some name, ← tag)
  | none =>
    match ← tag with
    | some tag => return (← anchor, some tag)
    | none => return (none, none)

def named (name : String) : Parse Node := do
  match (← get).anchors.lookup name with
  | some (some node) => return node
  | some none => throw .endless
  | none => fail

/-- Gives a name to a node that is to follow. -/
def announce : Option String → Parse Unit
  | none => return
  | some name => do
    let r ← get
    if (r.anchors.lookup name).isSome then fail
    set { r with anchors := (name, none) :: r.anchors }

def settle (name : Option String) (node : Node) : Parse Unit :=
  match name with
  | none => return
  | some name => modify fun r => { r with anchors := (name, some node) :: r.anchors }

/-- The kind of a node, given its tag and the kind that it has without one. -/
def kindOf (tag : Option String) (usual : Tag) : Tag :=
  match tag with
  | none | some "!" => usual
  | some name => .named name

def textKind (tag : Option String) (plain : Bool) (text : String) : Tag :=
  match tag with
  | none => if plain then .ofText text else .text
  | some "!" => .ofText text
  | some name => .named name

mutual

/-- A node. Outside of brackets it can be a block, and where `entries` holds a list without an indentation of
its own. -/
def node (block entries : Bool) : Nat → Parse Node
  | 0 => fail
  | fuel + 1 => do
    match ← peek with
    | some (.alias name) =>
      drop
      named name
    | _ =>
      let (name, tag) ← properties
      announce name
      let node ← content block entries tag (name.isSome || tag.isSome) fuel
      settle name node
      return node

def content (block entries : Bool) (tag : Option String) (marked : Bool) : Nat → Parse Node
  | 0 => fail
  | fuel + 1 => do
    match ← peek with
    | some .entry =>
      if entries then return .list (kindOf tag .list) (← flushItems fuel)
      else if marked then return .scalar (kindOf tag .null) "" else fail
    | some (.scalar text plain) =>
      drop
      return .scalar (textKind tag plain text) text
    | some .flowListStart =>
      drop
      return .list (kindOf tag .list) (← flowItems true fuel)
    | some .flowMapStart =>
      drop
      return .map (kindOf tag .map) (← flowEntries true fuel)
    | some .blockListStart =>
      if block then
        drop
        return .list (kindOf tag .list) (← blockItems fuel)
      else if marked then return .scalar (kindOf tag .null) "" else fail
    | some .blockMapStart =>
      if block then
        drop
        return .map (kindOf tag .map) (← blockEntries fuel)
      else if marked then return .scalar (kindOf tag .null) "" else fail
    | _ => if marked then return .scalar (kindOf tag .null) "" else fail

def blockItems : Nat → Parse (List Node)
  | 0 => fail
  | fuel + 1 => do
    if ← tries .blockEnd then return []
    unless ← tries .entry do fail
    let item ← if ← isAt [.entry, .blockEnd] then pure .empty else node true false fuel
    return item :: (← blockItems fuel)

def flushItems : Nat → Parse (List Node)
  | 0 => fail
  | fuel + 1 => do
    unless ← tries .entry do return []
    let item ← if ← isAt [.entry, .key, .value, .blockEnd] then pure .empty else node true false fuel
    return item :: (← flushItems fuel)

def blockPart : Nat → Parse Node
  | 0 => fail
  | fuel + 1 => do
    if ← isAt [.key, .value, .blockEnd] then return .empty else node true true fuel

def blockEntries : Nat → Parse (List (Node × Node))
  | 0 => fail
  | fuel + 1 => do
    if ← tries .blockEnd then return []
    unless ← tries .key do fail
    let key ← blockPart fuel
    let value ← if ← tries .value then blockPart fuel else pure .empty
    return (key, value) :: (← blockEntries fuel)

/-- A key and its value within brackets; nothing is written for what the closing bracket, a comma or a colon
follows. -/
def flowPair (close : Token) : Nat → Parse (Node × Node)
  | 0 => fail
  | fuel + 1 => do
    let key ← if ← isAt [.value, .flowEntry, close] then pure .empty else node false false fuel
    if ← tries .value then
      let value ← if ← isAt [.flowEntry, close] then pure .empty else node false false fuel
      return (key, value)
    else return (key, .empty)

def flowItems (first : Bool) : Nat → Parse (List Node)
  | 0 => fail
  | fuel + 1 => do
    if ← tries .flowListEnd then return []
    if !first then
      unless ← tries .flowEntry do fail
      if ← tries .flowListEnd then return []
    let item ← (do
      if ← tries .key then return .map .map [← flowPair .flowListEnd fuel]
      else node false false fuel)
    return item :: (← flowItems false fuel)

def flowEntries (first : Bool) : Nat → Parse (List (Node × Node))
  | 0 => fail
  | fuel + 1 => do
    if ← tries .flowMapEnd then return []
    if !first then
      unless ← tries .flowEntry do fail
      if ← tries .flowMapEnd then return []
    let entry ← (do
      if ← tries .key then flowPair .flowMapEnd fuel
      else return (← node false false fuel, .empty))
    return entry :: (← flowEntries false fuel)

end

/-- The directives before a document: whether its version was told, and the handles that were given. -/
def directives (versioned : Bool) (given : List (String × String)) :
    Nat → Parse (List (String × String))
  | 0 => fail
  | fuel + 1 => do
    match ← peek with
    | some (.directive d) =>
      drop
      match d with
      | .version major =>
        if versioned || major ≠ 1 then fail
        directives true given fuel
      | .tag handle lead =>
        if (given.lookup handle).isSome then fail
        directives versioned ((handle, lead) :: given) fuel
      | .other => directives versioned given fuel
    | _ => return given

def usualHandles : List (String × String) := [("!", "!"), ("!!", "tag:yaml.org,2002:")]

def ends : Nat → Parse Unit
  | 0 => return
  | fuel + 1 => do
    if ← tries .documentEnd then ends fuel

def document : Parse (Option Node) := do
  let length := (← get).tokens.length
  let fuel := 4 * length + 8
  match ← peek with
  | none => return none
  | some first =>
    let explicit := match first with
      | .directive _ | .documentStart => true
      | _ => false
    let root ← (do
      if explicit then
        let given ← directives false [] (length + 1)
        modify fun r => { r with handles := given ++ usualHandles }
        unless ← tries .documentStart do fail
        match ← peek with
        | none | some (.directive _) | some .documentStart | some .documentEnd => return .empty
        | some _ => node true false fuel
      else node true false fuel)
    ends (length + 1)
    unless (← get).tokens.isEmpty do fail
    return some root

end Remainder

/-- The node at the top of a text, if the text is not empty. -/
def Node.read (text : String) : Except Fault (Option Node) := do
  (Remainder.document).run' ⟨← tokens text, [], Remainder.usualHandles⟩

end PromptTree.Yaml
