import PromptTree.Text.Split
import PromptTree.Yaml.Fault

/-!
Places in a text, by line and column, and the classes of characters that decide how reading goes on.
-/

namespace PromptTree.Yaml

/-- What stands for the end of the text; the text itself cannot hold it. -/
def endMark : Char := '\x00'

def isBreak (c : Char) : Bool :=
  c = '\n' || c = '\r' || c = '\x85' || c = '\u2028' || c = '\u2029'

def endsLine (c : Char) : Bool :=
  c = endMark || isBreak c

/-- A line, the text or a word in it ends at the character; a tab does not end a word. -/
def endsWord (c : Char) : Bool :=
  c = ' ' || endsLine c

/-- A blank, or the end of a line or the text. -/
def isGap (c : Char) : Bool :=
  c = '\t' || endsWord c

def isPrintable (c : Char) : Bool :=
  let n := c.toNat
  c = '\t' || c = '\n' || c = '\r' || (0x20 ≤ n && n ≤ 0x7E) || n = 0x85 ||
    (0xA0 ≤ n && n ≤ 0xFFFD) || 0x10000 ≤ n

/-- A character of a plain word, such as the name of an anchor. -/
def isWordChar (c : Char) : Bool :=
  c.isAlphanum || c = '-' || c = '_'

/-- A place in a text. -/
structure Cursor where
  rest : List Char
  line : Nat
  column : Nat
  index : Nat

namespace Cursor

def start (text : List Char) : Cursor :=
  ⟨text, 0, 0, 0⟩

def peek (c : Cursor) (n : Nat) : Char :=
  (c.rest.drop n).headD endMark

def next (c : Cursor) : Cursor :=
  match c.rest with
  | [] => c
  | ch :: rest =>
    if isBreak ch && !(ch = '\r' && rest.head? = some '\n') then ⟨rest, c.line + 1, 0, c.index + 1⟩
    else ⟨rest, c.line, if ch = '\uFEFF' then c.column else c.column + 1, c.index + 1⟩

def skip (c : Cursor) : Nat → Cursor
  | 0 => c
  | n + 1 => c.next.skip n

def atMark (c : Cursor) (mark : String) : Bool :=
  (Text.after? mark.toList c.rest).any fun rest => isGap (rest.headD endMark)

def atSeparator (c : Cursor) : Bool :=
  c.atMark "---" || c.atMark "..."

end Cursor

/-- Reading from a place on. -/
abbrev Scan := StateT Cursor (Except Fault)

namespace Scan

def peek : Scan Char := do
  return (← get).peek 0

def skip (n : Nat) : Scan Unit :=
  modify (·.skip n)

def run (p : Char → Bool) : Scan (List Char) := do
  let cs := (← get).rest.takeWhile p
  skip cs.length
  return cs

def fail {α : Type} : Scan α :=
  throw .malformed

def require (condition : Bool) : Scan Unit :=
  if condition then pure () else fail

def lineBreak : Scan (List Char) := do
  let c ← get
  match c.rest with
  | '\r' :: '\n' :: _ =>
    skip 2
    return ['\n']
  | ch :: _ =>
    if !isBreak ch then return []
    skip 1
    return if ch = '\u2028' || ch = '\u2029' then [ch] else ['\n']
  | [] => return []

def blanks : Scan Unit := do
  discard (run (· = ' '))

def comment : Scan Unit := do
  if (← peek) = '#' then discard (run (!endsLine ·))

/-- Goes past the end of a line on which nothing but a comment may stand. -/
def restOfLine : Scan Unit := do
  blanks
  comment
  require (endsLine (← peek))
  discard lineBreak

end Scan

end PromptTree.Yaml
