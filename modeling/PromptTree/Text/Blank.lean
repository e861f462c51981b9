import PromptTree.Text.Ranges

/-!
White space, and what remains of a text when it is trimmed.
-/

namespace PromptTree.Text

/-- White space of every script: the ASCII controls that move the caret or separate records, the next
line mark, and the spaces and separators of general punctuation. -/
def isBlank (c : Char) : Bool :=
  inRanges [(0x09, 0x0D), (0x1C, 0x20), (0x85, 0x85), (0xA0, 0xA0), (0x1680, 0x1680),
    (0x2000, 0x200A), (0x2028, 0x2029), (0x202F, 0x202F), (0x205F, 0x205F), (0x3000, 0x3000)] c

/-- A blank of the ASCII alphabet, as the plain text formats understand it. -/
def isAsciiBlank (c : Char) : Bool :=
  c == ' ' || c == '\t' || c == '\n' || c == '\r' || c == '\x0c' || c == '\x0b'

/-- A blank that may stand around a number; those that separate records may not. -/
def isNumberBlank (c : Char) : Bool :=
  isBlank c && !inRanges [(0x1C, 0x1F)] c

def dropEndWhile (p : Char → Bool) (cs : List Char) : List Char :=
  (cs.reverse.dropWhile p).reverse

/-- The characters without those that satisfy `p` at either end. -/
def trimWhile (p : Char → Bool) (cs : List Char) : List Char :=
  dropEndWhile p (cs.dropWhile p)

def trim (s : String) : String :=
  .ofList (trimWhile isBlank s.toList)

end PromptTree.Text
