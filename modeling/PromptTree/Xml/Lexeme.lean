import PromptTree.Text.Split
import PromptTree.Xml.Character

/-!
The smallest parts of XML: names, references, quoted text, and what is skipped.
-/

namespace PromptTree.Xml

/-- Reads the beginning of a text and leaves the rest. -/
abbrev Lexer := StateT (List Char) Option

namespace Lexer

def exactly (lead : String) : Lexer Unit := fun cs =>
  (Text.after? lead.toList cs).map ((), ·)

/-- The next characters, if they are the given ones. -/
def tries (lead : String) : Lexer Bool := fun cs =>
  match Text.after? lead.toList cs with
  | some rest => some (true, rest)
  | none => some (false, cs)

def run (p : Char → Bool) : Lexer (List Char) := fun cs =>
  some (cs.span p)

def spaces : Lexer Unit := do
  discard (run isSpace)

def blank : Lexer Unit := do
  if (← run isSpace).isEmpty then failure

/-- The text before a mark, both consumed. All characters before the mark have to be allowed. -/
def upTo (mark : String) : Lexer (List Char) := fun cs => do
  let (content, rest) ← Text.around? mark.toList cs
  guard (content.all isChar)
  return (content, rest)

def simpleName : Lexer String := do
  match ← run isNameChar with
  | c :: cs => if isNameStart c then return .ofList (c :: cs) else failure
  | [] => failure

def qualifiedName : Lexer (Option String × String) := do
  let first ← simpleName
  if ← tries ":" then return (some first, ← simpleName)
  else return (none, first)

def hexValue? (c : Char) : Option Nat :=
  if c.isDigit then some (c.toNat - '0'.toNat)
  else if 'a' ≤ c ∧ c ≤ 'f' then some (c.toNat - 'a'.toNat + 10)
  else if 'A' ≤ c ∧ c ≤ 'F' then some (c.toNat - 'A'.toNat + 10)
  else none

/-- The character of a code point, if a document can hold it. -/
def charOf? (n : Nat) : Option Char :=
  if h : n.isValidChar then
    let c : Char := .ofNatAux n h
    if isChar c then some c else none
  else none

def number (base : Nat) : Lexer Nat := do
  let digits ← run fun c => (hexValue? c).any (· < base)
  if digits.isEmpty then failure
  return digits.foldl (fun n c => n * base + (hexValue? c).getD 0) 0

inductive Reference where
  | char (c : Char)
  | entity (name : String)

def predefined? : String → Option Char
  | "lt" => some '<'
  | "gt" => some '>'
  | "amp" => some '&'
  | "quot" => some '"'
  | "apos" => some '\''
  | _ => none

def reference : Lexer Reference := do
  if ← tries "#" then
    let base := if ← tries "x" then 16 else 10
    let n ← number base
    exactly ";"
    match charOf? n with
    | some c => return .char c
    | none => failure
  else
    let name ← simpleName
    exactly ";"
    return .entity name

def quotedText : Lexer (List Char) := do
  if ← tries "\"" then upTo "\""
  else
    exactly "'"
    upTo "'"

def comment : Lexer Unit := do
  discard (upTo "--")
  exactly ">"

/-- A name that only the declaration of the document can have. -/
def isReserved (name : String) : Bool :=
  name.toList.map Char.toLower == ['x', 'm', 'l']

def instruction : Lexer Unit := do
  let name ← simpleName
  if isReserved name then failure
  unless ← tries "?>" do
    blank
    discard (upTo "?>")

/-- Blanks, comments and instructions, up to anything else. -/
def skipped : Nat → Lexer Unit
  | 0 => failure
  | fuel + 1 => do
    spaces
    if ← tries "<!--" then
      comment
      skipped fuel
    else if ← tries "<?" then
      instruction
      skipped fuel
    else return ()

/-- Blanks, comments and instructions, up to anything else. -/
def misc : Lexer Unit := do
  skipped ((← get).length + 1)

/-- One of the fields of a document's declaration: its name and its value. -/
def declarationField : Lexer (Option (String × List Char)) := do
  let gap ← run isSpace
  if (← get).isEmpty || gap.isEmpty then
    if (← get).isEmpty then return none else failure
  let name ← run fun c => c.isAlpha || c = '_'
  spaces
  exactly "="
  spaces
  let mark := if ← tries "\"" then "\"" else "'"
  if mark = "'" then exactly "'"
  let value ← upTo mark
  if value.all fun c => c.isAlphanum || c = '.' || c = '-' || c = '_' then
    return some (.ofList name, value)
  else failure

/-- The fields of a document's declaration, in their order; whether the document stands alone. -/
def declarationFields : Lexer Bool := do
  match ← declarationField with
  | some ("version", _) => pure ()
  | _ => failure
  match ← declarationField with
  | none => return false
  | some ("encoding", c :: _) =>
    if !c.isAlpha then failure
    match ← declarationField with
    | none => return false
    | some ("standalone", value) => standsAlone value
    | _ => failure
  | some ("standalone", value) => standsAlone value
  | _ => failure
where
  standsAlone (value : List Char) : Lexer Bool := do
    spaces
    unless (← get).isEmpty do failure
    if value = ['y', 'e', 's'] then return true
    else if value = ['n', 'o'] then return false
    else failure

/-- The declaration at the beginning of a document, if it has one; whether the document stands alone. -/
def declaration : Lexer Bool := fun cs =>
  match Text.after? "<?xml".toList cs with
  | none => some (false, cs)
  | some rest =>
    match rest with
    | c :: _ =>
      if isNameChar c || c = ':' then some (false, cs)
      else do
        let (content, rest) ← upTo "?>" rest
        let standsAlone ← declarationFields.run' content
        return (standsAlone, rest)
    | [] => none

end Lexer

end PromptTree.Xml
