import PromptTree.Value.Basic
import PromptTree.Decimal.Notation
import PromptTree.Text.Quoted

/-!
Values written as JSON. Dates, bytes and sets have no place in it, and neither do keys that are more
than a word or a number.
-/

namespace PromptTree.Json

/-- The choices of a writer: whether only ASCII is used, and how deep the levels are indented, if the
text is spread over several lines. -/
structure Style where
  ascii : Bool
  indent : Option Nat

/-- On one line, with characters as they are. -/
def plain : Style := ⟨false, none⟩

/-- On one line, in ASCII. -/
def ascii : Style := ⟨true, none⟩

/-- On several lines, with characters as they are. -/
def pretty : Style := ⟨false, some 2⟩

def escapeUnit (n : Nat) : List Char :=
  '\\' :: 'u' :: Text.Quoted.hex 4 n

/-- A character by its number, in two escapes if it does not fit into one. -/
def escapeNumber (c : Char) : List Char :=
  if c.toNat < 0x10000 then escapeUnit c.toNat
  else
    let n := c.toNat - 0x10000
    escapeUnit (0xD800 + n / 0x400) ++ escapeUnit (0xDC00 + n % 0x400)

def escape (style : Style) (c : Char) : List Char :=
  if c = '"' then ['\\', '"']
  else if c = '\\' then ['\\', '\\']
  else if c = '\n' then ['\\', 'n']
  else if c = '\r' then ['\\', 'r']
  else if c = '\t' then ['\\', 't']
  else if c = '\x08' then ['\\', 'b']
  else if c = '\x0c' then ['\\', 'f']
  else if c.toNat < 0x20 || (style.ascii && c.toNat ≥ 0x7F) then escapeNumber c
  else [c]

def string (style : Style) (s : String) : String :=
  .ofList ('"' :: s.toList.flatMap (escape style) ++ ['"'])

/-- Numbers in JSON; what is no finite number is named in full. -/
def numbers : Binary64.Notation :=
  { Binary64.plain with notANumber := "NaN", infinity := "Infinity" }

def keyText? : Value → Option String
  | .text s => some s
  | .null => some "null"
  | .bool b => some (if b then "true" else "false")
  | .int n => some (toString n)
  | .float x => some (x.render numbers)
  | _ => none

def breakAt (style : Style) (level : Nat) : String :=
  match style.indent with
  | some width => "\n" ++ .ofList (List.replicate (width * level) ' ')
  | none => ""

def afterComma (style : Style) (level : Nat) : String :=
  match style.indent with
  | some _ => "," ++ breakAt style level
  | none => ", "

/-- Parts between brackets; without parts nothing stands between them. -/
def enclose (style : Style) (level : Nat) (opening closing : String) (parts : List String) : String :=
  if parts.isEmpty then opening ++ closing
  else
    opening ++ breakAt style (level + 1) ++ String.intercalate (afterComma style (level + 1)) parts ++
      breakAt style level ++ closing

mutual

/-- The value as JSON, inside as many brackets as `level` says; `none` if it has no place in it. -/
def write? (style : Style) (level : Nat) : Value → Option String
  | .null => some "null"
  | .bool b => some (if b then "true" else "false")
  | .int n => some (toString n)
  | .float x => some (x.render numbers)
  | .text s => some (string style s)
  | .list items => do return enclose style level "[" "]" (← writeItems? style (level + 1) items)
  | .map entries => do return enclose style level "\x7b" "\x7d" (← writeEntries? style (level + 1) entries)
  | .date _ | .moment _ | .bytes _ | .set _ => none
termination_by structural v => v

def writeItems? (style : Style) (level : Nat) : List Value → Option (List String)
  | [] => some []
  | item :: items => do return (← write? style level item) :: (← writeItems? style level items)
termination_by structural items => items

def writeEntries? (style : Style) (level : Nat) : List (Value × Value) → Option (List String)
  | [] => some []
  | (k, v) :: entries => do
    let key ← keyText? k
    let value ← write? style level v
    return (string style key ++ ": " ++ value) :: (← writeEntries? style level entries)
termination_by structural entries => entries

end

end PromptTree.Json

namespace PromptTree.Value

def toJson? (v : Value) (style : Json.Style) : Option String :=
  Json.write? style 0 v

end PromptTree.Value
