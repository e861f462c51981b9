import PromptTree.Text.Digit
import PromptTree.Text.Letter
import PromptTree.Text.Split

/-!
What the body of a reference asks for: the text of a name, or one of the built-in functions with its
arguments.
-/

namespace PromptTree.Template

/-! ### Words run together -/

/-- A mark that separates words. -/
def isWordBreak (c : Char) : Bool :=
  Text.isBlank c || c == '_' || c == '-'

/-- The words between marks; runs of marks count as one. `fresh` is set right after a mark. -/
def wordsFrom (fresh : Bool) : List Char → List (List Char)
  | [] => [[]]
  | c :: rest =>
    if isWordBreak c then
      if fresh then wordsFrom true rest else [] :: wordsFrom true rest
    else match wordsFrom false rest with
      | [] => [[c]]
      | word :: words => (c :: word) :: words

def capitalize : List Char → List Char
  | [] => []
  | c :: rest => Text.upperChars c ++ rest

/-- The words run together, each with a capital; a text that has a capital already stays as it is. -/
def camelCase (text : List Char) : List Char :=
  if text.any fun c => 'A' ≤ c && c ≤ 'Z' then text
  else (wordsFrom false text).flatMap capitalize

/-! ### Commands -/

/-- What a reference asks for. -/
inductive Command where
  /-- The text of a name, its words run together. -/
  | camel (name : List Char)
  /-- A text, which is also bound to a name. -/
  | tee (name value : List Char)
  /-- A moment, written after a pattern. -/
  | date (pattern : List Char) (expression : List Char)
  /-- As many random characters of a set as the leading number of a text says. -/
  | random (length charset : List Char)
  /-- The text of a name. -/
  | lookup (name : List Char)
deriving DecidableEq, Repr

namespace Command

def defaultName : List Char := "var".toList

def defaultPattern : List Char := "%Y-%m-%d %H:%M:%S".toList

def defaultMoment : List Char := "now".toList

def defaultLength : List Char := ['8']

def defaultCharset : List Char :=
  "0123456789abcdefghijklmnopqrstuvwxyzABCDEFGHIJKLMNOPQRSTUVWXYZ".toList

/-- The first argument, or what stands in for an empty or a missing one. -/
def firstOr (default : List Char) : List (List Char) → List Char
  | [] | [] :: _ => default
  | arg :: _ => arg

/-- The command of a body: the stretches between vertical bars are its name and its arguments. -/
def ofBody (body : List Char) : Command :=
  match Text.splitOn '|' body with
  | [] => .lookup []
  | name :: args =>
    if name = "@autocamel".toList then .camel (args.head?.getD defaultName)
    else if name = "@tee".toList then
      .tee (args.head?.getD defaultName) (Text.joinWith '|' (args.drop 1))
    else if name = "@date".toList then .date (firstOr defaultPattern args) (args[1]?.getD defaultMoment)
    else if name = "@rand".toList then
      let length := args.head?.getD []
      let charset := Text.joinWith '|' (args.drop 1)
      .random (if length.all Text.isBlank then defaultLength else length)
        (if charset.isEmpty then defaultCharset else charset)
    else .lookup name

end Command

/-- The number at the start of a text, behind blanks and a sign: nothing there and a negative number
count as zero. If it has too many digits, the result is how many. -/
def leadingNumber (text : List Char) : Except Nat Nat :=
  let cs := text.dropWhile Text.isBlank
  let (negative, cs) := match cs with
    | '-' :: rest => (true, rest)
    | '+' :: rest => (false, rest)
    | rest => (false, rest)
  let digits := (cs.takeWhile Text.isDigit).filterMap Text.digitValue?
  if digits.length > Text.maxNumberDigits then .error digits.length
  else if negative then .ok 0
  else .ok (Text.numberOfDigits 10 digits)

end PromptTree.Template
