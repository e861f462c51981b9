/-!
Plain text as markup: the five characters that markup gives a meaning become entities, and line
breaks are marked by a tag.
-/

namespace PromptTree.Text.Markup

/-- The entity of a character that markup gives a meaning, or the character itself. -/
def escapeChar : Char → List Char
  | '&' => ['&', 'a', 'm', 'p', ';']
  | '<' => ['&', 'l', 't', ';']
  | '>' => ['&', 'g', 't', ';']
  | '"' => ['&', 'q', 'u', 'o', 't', ';']
  | '\'' => ['&', '#', 'x', '2', '7', ';']
  | c => [c]

def escape (cs : List Char) : List Char :=
  cs.flatMap escapeChar

def breakTag : List Char :=
  ['<', 'b', 'r', ' ', '/', '>']

/-- The text with the tag before each line break; a line feed and a carriage return next to each
other, in either order, are one break. -/
def markBreaks : List Char → List Char
  | '\r' :: '\n' :: rest => breakTag ++ '\r' :: '\n' :: markBreaks rest
  | '\n' :: '\r' :: rest => breakTag ++ '\n' :: '\r' :: markBreaks rest
  | '\n' :: rest => breakTag ++ '\n' :: markBreaks rest
  | '\r' :: rest => breakTag ++ '\r' :: markBreaks rest
  | c :: rest => c :: markBreaks rest
  | [] => []

def ofText (cs : List Char) : List Char :=
  markBreaks (escape cs)

end PromptTree.Text.Markup
