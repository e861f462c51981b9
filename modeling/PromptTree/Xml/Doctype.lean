import PromptTree.Xml.Lexeme

/-!
The declarations that a document begins with. Those of entities and of attributes matter to the text
after them, the others only have to be well formed.
-/

namespace PromptTree.Xml

inductive Entity where
  | inner (text : List Char)
  /-- Something outside of the document. -/
  | outer
deriving DecidableEq, Repr

structure AttributeRule where
  element : Option String × String
  name : Option String × String
  /-- The value is any text, and blanks in it are kept. -/
  plain : Bool
  default : Option (List Char)
deriving DecidableEq, Repr

structure Doctype where
  entities : List (String × Entity)
  rules : List AttributeRule
  /-- Some declarations stand outside of the document. -/
  incomplete : Bool
  /-- The document needs no declarations from outside. -/
  standsAlone : Bool
deriving Repr

namespace Doctype

def none : Doctype := ⟨[], [], false, false⟩

def entity? (doctype : Doctype) (name : String) : Option Entity :=
  doctype.entities.lookup name

/-- What a reference stands for. -/
inductive Meaning where
  | char (c : Char)
  | entity (e : Entity)

def meaning? (doctype : Doctype) : Lexer.Reference → Option Meaning
  | .char c => some (.char c)
  | .entity name => match Lexer.predefined? name with
    | some c => some (.char c)
    | Option.none => (doctype.entity? name).map .entity

/-- An entity that is not declared cannot be declared elsewhere either. -/
def isFinal (doctype : Doctype) : Bool :=
  doctype.standsAlone || !doctype.incomplete

/-- Declarations are still taken up: none has been left out before them. -/
def takesUp (doctype : Doctype) (skipped : Bool) : Bool :=
  doctype.standsAlone || !skipped

/-- The rule for an attribute of an element: the first one counts. -/
def rule? (doctype : Doctype) (element name : Option String × String) : Option AttributeRule :=
  doctype.rules.find? fun r => r.element == element && r.name == name

/-- Blanks at the ends left out, and those between words made one. -/
def collapse (cs : List Char) : List Char :=
  Text.joinWith ' ' ((Text.splitOn ' ' cs).filter (!·.isEmpty))

/-- The value that the text of an attribute stands for. The entities in the text are opened; one inside
of itself is an error, which the count of entities `depth` that can still be opened finds. -/
def attributeChars (doctype : Doctype) (depth fuel : Nat) (cs : List Char) : Option (List Char) :=
  match fuel, cs with
  | 0, _ => failure
  | _, [] => some []
  | fuel + 1, c :: rest =>
    if c = '<' then failure
    else if c = '&' then do
      let (r, rest) ← Lexer.reference rest
      let chars ← match doctype.meaning? r, depth with
        | some (.char c), _ => some [c]
        | some (.entity (.inner text)), depth + 1 => doctype.attributeChars depth (text.length + 1) text
        | some (.entity _), _ => failure
        | Option.none, _ => if doctype.isFinal then failure else some []
      return chars ++ (← doctype.attributeChars depth fuel rest)
    else do
      let c := if isSpace c then ' ' else c
      return c :: (← doctype.attributeChars depth fuel rest)
termination_by (depth, fuel)

def attributeValue (doctype : Doctype) (rule : Option AttributeRule) (cs : List Char) :
    Option String := do
  let value ← doctype.attributeChars doctype.entities.length (cs.length + 1) cs
  return .ofList (if rule.all (·.plain) then value else collapse value)

/-- The text that an entity stands for, from the text of its declaration. -/
def entityText (fuel : Nat) (cs : List Char) : Option (List Char) :=
  match fuel, cs with
  | 0, _ => failure
  | _, [] => some []
  | fuel + 1, c :: rest =>
    if c = '%' then failure
    else if c = '&' then do
      let (r, after) ← Lexer.reference rest
      match r with
      | .char c => return c :: (← entityText fuel after)
      | .entity name => return '&' :: name.toList ++ ';' :: (← entityText fuel after)
    else do return c :: (← entityText fuel rest)

inductive Part where
  | name (first : Option String) (inner : String)
  /-- A word that is no name. -/
  | word
  | literal (content : List Char)
  /-- A word after a number sign. -/
  | keyword (word : String)
  | mark (c : Char)
deriving DecidableEq, Repr

def wordPart (cs : List Char) : Part :=
  match cs.head? with
  | Option.none => .word
  | some c =>
    if !isNameStart c then .word
    else match Text.splitOn ':' cs with
      | [inner] => .name Option.none (.ofList inner)
      | [first, inner] =>
        if inner.isEmpty then .word else .name (some (.ofList first)) (.ofList inner)
      | _ => .word

def nextIn (marks : List Char) : Lexer Unit := fun cs =>
  if cs.head?.any fun c => isSpace c || marks.contains c then some ((), cs) else failure

/-- The sign after a name or group that says how often it occurs. -/
def occurrence : Lexer (List Part) := fun cs =>
  match cs with
  | c :: rest => if ['?', '*', '+'].contains c then some ([.mark c], rest) else some ([], cs)
  | [] => failure

def parts : Nat → Lexer (List Part)
  | 0 => failure
  | fuel + 1 => do
    Lexer.spaces
    match ← get with
    | [] => failure
    | c :: rest =>
      if c = '>' then
        set rest
        return []
      else if c = '"' || c = '\'' then
        let content ← Lexer.quotedText
        nextIn ['>', '%', '[']
        return .literal content :: (← parts fuel)
      else if c = '#' then
        set rest
        let word ← Lexer.simpleName
        nextIn [')', '>', '%', '|']
        return .keyword word :: (← parts fuel)
      else if c = '(' || c = '|' || c = ',' then
        set rest
        return .mark c :: (← parts fuel)
      else if c = '%' then
        set rest
        nextIn ['%']
        return .mark c :: (← parts fuel)
      else if c = ')' then
        set rest
        let sign ← occurrence
        if sign.isEmpty then nextIn ['>', ',', '|', ')']
        return .mark c :: sign ++ (← parts fuel)
      else
        let word ← Lexer.run fun c => isNameChar c || c = ':'
        if word.isEmpty then failure
        let sign ← occurrence
        if sign.isEmpty then nextIn ['>', ')', ',', '|', '[', '%']
        return wordPart word :: sign ++ (← parts fuel)

/-- A character that the public name of something can hold. -/
def isPublicChar (c : Char) : Bool :=
  c.isAlphanum || c = ' ' || c = '\n' || c = '\r' || "-'()+,./:=?;!*#@$_%".contains c

/-- The place of something outside of the document, and the parts after it. -/
def outerPlace : List Part → Option (List Part)
  | .name Option.none "SYSTEM" :: .literal _ :: rest => some rest
  | .name Option.none "PUBLIC" :: .literal public_ :: .literal _ :: rest =>
    if public_.all isPublicChar then some rest else failure
  | _ => failure

/-- Takes up an entity. The first one of a name counts, and the predefined ones stay. -/
def declare (doctype : Doctype) (name : String) (e : Entity) : Doctype :=
  if (Lexer.predefined? name).isSome || (doctype.entity? name).isSome then doctype
  else { doctype with entities := doctype.entities ++ [(name, e)] }

def entityRule (doctype : Doctype) (skipped : Bool) : List Part → Option Doctype
  | [.mark '%', .name Option.none _, .literal text] => do
    if doctype.takesUp skipped then discard (entityText (text.length + 1) text)
    return doctype
  | .mark '%' :: .name Option.none _ :: rest => do
    guard ((← outerPlace rest) = [])
    return doctype
  | [.name Option.none name, .literal text] =>
    if !doctype.takesUp skipped then some doctype
    else do
      let text ← entityText (text.length + 1) text
      return doctype.declare name (.inner text)
  | .name Option.none name :: rest => do
    match ← outerPlace rest with
    | [] | [.name Option.none "NDATA", .name Option.none _] =>
      return if doctype.takesUp skipped then doctype.declare name .outer else doctype
    | _ => failure
  | _ => failure

def typeNames : List String :=
  ["CDATA", "ID", "IDREF", "IDREFS", "ENTITY", "ENTITIES", "NMTOKEN", "NMTOKENS"]

def choices (namesOnly : Bool) : List Part → Option (List Part)
  | part :: .mark c :: rest =>
    let fits := match part with
      | .name first _ => first.isNone || !namesOnly
      | .word => !namesOnly
      | _ => false
    if !fits then failure
    else if c = ')' then some rest
    else if c = '|' then choices namesOnly rest
    else failure
  | _ => failure

/-- The type of an attribute: whether its value is any text, and the parts after it. -/
def attributeType : List Part → Option (Bool × List Part)
  | .name Option.none "NOTATION" :: .mark '(' :: rest => do return (false, ← choices true rest)
  | .name Option.none type :: rest =>
    if typeNames.contains type then some (type == "CDATA", rest) else failure
  | .mark '(' :: rest => do return (false, ← choices false rest)
  | _ => failure

def attributeRules (element : Option String × String) (skipped : Bool) :
    Nat → Doctype → List Part → Option Doctype
  | 0, _, _ => failure
  | _, doctype, [] => some doctype
  | fuel + 1, doctype, .name first inner :: rest => do
    let (plain, rest) ← attributeType rest
    let (given, rest) ← match rest with
      | .keyword "IMPLIED" :: rest | .keyword "REQUIRED" :: rest => some (Option.none, rest)
      | .keyword "FIXED" :: .literal text :: rest | .literal text :: rest => some (some text, rest)
      | _ => failure
    let name := (first, inner)
    let rule (default : Option (List Char)) : AttributeRule := { element, name, plain, default }
    let doctype ←
      if !doctype.takesUp skipped then some doctype
      else do
        let default ← match given with
          | some text => do
            let value ← doctype.attributeValue (some (rule Option.none)) text
            pure (some value.toList)
          | Option.none => pure Option.none
        if (doctype.rule? element name).isSome then some doctype
        else some { doctype with rules := doctype.rules ++ [rule default] }
    attributeRules element skipped fuel doctype rest
  | _, _, _ => failure

/-- The rest of a group of names of which text can be mixed. -/
def mixed : List Part → Bool
  | [.mark ')', .mark '*'] => true
  | .mark '|' :: .name _ _ :: rest => mixed rest
  | _ => false

/-- The rest of the content that an element can have. Each open group has a mark between its members, once
there are two. -/
def groups (open_ : List (Option Char)) (wantsMember : Bool) : List Part → Bool
  | .mark '(' :: rest => wantsMember && groups (Option.none :: open_) true rest
  | .name _ _ :: rest => wantsMember && !open_.isEmpty && groups open_ false rest
  | .mark c :: rest =>
    if wantsMember then false
    else if ['?', '*', '+'].contains c then groups open_ false rest
    else match open_ with
      | [] => false
      | between :: outer =>
        if c = ')' then groups outer false rest
        else (c = ',' || c = '|') && between.all (· = c) && groups (some c :: outer) true rest
  | [] => open_.isEmpty && !wantsMember
  | _ => false

def contentRule : List Part → Bool
  | [.name Option.none "EMPTY"] | [.name Option.none "ANY"] => true
  | [.mark '(', .keyword "PCDATA", .mark ')'] => true
  | .mark '(' :: .keyword "PCDATA" :: rest => mixed rest
  | .mark '(' :: rest => groups [Option.none] true rest
  | _ => false

def take (doctype : Doctype) (skipped : Bool) (kind : String) (given : List Part) : Option Doctype :=
  match kind, given with
  | "ENTITY", given => doctype.entityRule skipped given
  | "ATTLIST", .name first inner :: rest =>
    attributeRules (first, inner) skipped (rest.length + 1) doctype rest
  | "ELEMENT", .name _ _ :: rest => if contentRule rest then some doctype else failure
  | "NOTATION", [.name Option.none _, .name Option.none "PUBLIC", .literal public_] =>
    if public_.all isPublicChar then some doctype else failure
  | "NOTATION", .name Option.none _ :: rest => do
    guard ((← outerPlace rest) = [])
    return doctype
  | _, _ => failure

def subset (doctype : Doctype) (skipped : Bool) : Nat → Lexer Doctype
  | 0 => failure
  | fuel + 1 => do
    Lexer.misc
    if ← Lexer.tries "]" then return doctype
    else if ← Lexer.tries "%" then
      discard Lexer.simpleName
      Lexer.exactly ";"
      subset { doctype with incomplete := true } true fuel
    else
      Lexer.exactly "<!"
      let kind ← Lexer.run fun c => c.isAlpha || c = '_'
      Lexer.blank
      let given ← parts ((← get).length + 1)
      match doctype.take skipped (.ofList kind) given with
      | some doctype => subset doctype skipped fuel
      | Option.none => failure

/-- The place of declarations outside of the document, if one is given. -/
def outerSubset : Lexer Bool := do
  let gap ← Lexer.run isSpace
  if gap.isEmpty then return false
  if ← Lexer.tries "SYSTEM" then
    Lexer.blank
    discard Lexer.quotedText
    nextIn ['>', '[']
    return true
  else if ← Lexer.tries "PUBLIC" then
    Lexer.blank
    let name ← Lexer.quotedText
    unless name.all isPublicChar do failure
    Lexer.blank
    discard Lexer.quotedText
    nextIn ['>', '[']
    return true
  else return false

def read (standsAlone : Bool) : Lexer Doctype := do
  let start : Doctype := { none with standsAlone }
  unless ← Lexer.tries "<!DOCTYPE" do return start
  Lexer.blank
  discard Lexer.qualifiedName
  let incomplete ← outerSubset
  Lexer.spaces
  let start := { start with incomplete }
  let doctype ← (do
    if ← Lexer.tries "[" then subset start false ((← get).length + 1) else return start)
  Lexer.spaces
  Lexer.exactly ">"
  return doctype

end Doctype

end PromptTree.Xml
