/-!
Line ends of text files.
-/

namespace PromptTree.Text

/-- Every line end as a single line feed: a carriage return, alone or before a line feed, becomes
one. -/
def normalizeNewlines : List Char → List Char
  | '\r' :: '\n' :: rest => '\n' :: normalizeNewlines rest
  | '\r' :: rest => '\n' :: normalizeNewlines rest
  | c :: rest => c :: normalizeNewlines rest
  | [] => []

end PromptTree.Text
