import PromptTree.Text.Digit
import PromptTree.Text.Printable

/-!
A text shown between quotes on one line, with escapes for what could not be seen.
-/

namespace PromptTree.Text.Quoted

def hex (width n : Nat) : List Char :=
  (padZeros width (.ofList (digitsOf 16 n))).toList

/-- Single quotes, unless the text holds single quotes and no double ones. -/
def quoteFor (cs : List Char) : Char :=
  if cs.contains '\'' && !cs.contains '"' then '"' else '\''

def escape (quote c : Char) : List Char :=
  if c = quote || c = '\\' then ['\\', c]
  else if c = '\t' then ['\\', 't']
  else if c = '\n' then ['\\', 'n']
  else if c = '\r' then ['\\', 'r']
  else if isPrintable c then [c]
  else if c.toNat < 0x100 then '\\' :: 'x' :: hex 2 c.toNat
  else if c.toNat < 0x10000 then '\\' :: 'u' :: hex 4 c.toNat
  else '\\' :: 'U' :: hex 8 c.toNat

def encode (cs : List Char) : List Char :=
  let quote := quoteFor cs
  quote :: cs.flatMap (escape quote) ++ [quote]

end PromptTree.Text.Quoted

namespace PromptTree.Text

/-- What a message gives in place of a cause that has no wording of its own. -/
def unworded : String := "<detail>"

def quoted (s : String) : String :=
  .ofList (Quoted.encode s.toList)

end PromptTree.Text
