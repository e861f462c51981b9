import PromptTree.Html.Entity
import PromptTree.Regex.Reader
import PromptTree.Regex.Search
import PromptTree.Text.Split

/-!
Pages as tokens: tags, text, and notes such as comments. Tags are read tolerantly; what cannot be read
as a tag is text.
-/

namespace PromptTree.Html

/-- The kinds of notes in a page. -/
inductive NoteKind where
  | comment
  | doctype
  | section
  | declaration
  | instruction
deriving DecidableEq, Repr

inductive Token where
  | text (content : List Char)
  | note (kind : NoteKind) (content : List Char)
  /-- A tag that opens an element; `closed` if it closes it as well. -/
  | opening (name : String) (attributes : List (String × String)) (closed : Bool)
  | closing (name : String)
deriving DecidableEq, Repr

/-- A page cannot be read: it holds a marked section of an unknown kind. -/
structure Rejected where
deriving DecidableEq, Repr

def shape (text : String) : Regex :=
  (Regex.read {} text).toOption.getD .empty

def nameShape : Regex := shape r"([a-zA-Z][^\t\n\r\f />\x00]*)(?:\s|/(?!>))*"

def tagShape : Regex :=
  shape (r"<[a-zA-Z][^\t\n\r\f />\x00]*(?:[\s/]*(?:(?<=[" ++ "'" ++ r#""\s/])[^\s/>][^\s/=>]*"# ++
    r"(?:\s*=+\s*(?:'[^']*'|" ++ "\"[^\"]*\"|(?!['\"])" ++ r"[^>\s]*)\s*)?(?:\s|/(?!>))*)*)?\s*")

/-- One attribute: its name, what follows the name, and its value. -/
def attributeShape : Regex :=
  shape (r"((?<=[" ++ "'" ++ r#""\s/])[^\s/>][^\s/=>]*)(\s*=+\s*('[^']*'|"# ++
    "\"[^\"]*\"|(?!['\"])" ++ r"[^>\s]*))?(?:\s|/(?!>))*")

def closingShape : Regex := shape r"</\s*([a-zA-Z][-.a-zA-Z0-9:_]*)\s*>"

def commentEnd : Regex := shape r"--\s*>"

def sectionEnd : Regex := shape r"]\s*]\s*>"

def conditionEnd : Regex := shape r"]\s*>"

def sectionName : Regex := shape r"[a-zA-Z][-_.a-zA-Z0-9]*\s*"

/-- A match at the beginning of a text, after the given characters, the nearest first. -/
def matchAt? (regex : Regex) (before cs : List Char) : Option Regex.Progress :=
  regex.way ⟨before, cs, 0, []⟩ some

def captured (p : Regex.Progress) (group : Nat) : Option (List Char) := p.captures.lookup group

def nameOf (cs : List Char) : String := Text.lower (.ofList cs)

/-- What lies before and after the first match of a pattern. -/
def splitAtMatch? (regex : Regex) (cs : List Char) : Option (List Char × List Char) :=
  go [] cs
where
  go (before : List Char) : List Char → Option (List Char × List Char)
    | [] => (matchAt? regex before []).map fun p => (before.reverse, p.after)
    | c :: rest =>
      match matchAt? regex before (c :: rest) with
      | some p => some (before.reverse, p.after)
      | none => go (c :: before) rest

/-- What is read at a place: a token, if there is one, and how many characters it takes up. -/
inductive Reading where
  | done (token : Option Token) (length : Nat)
  /-- What begins here does not end. -/
  | incomplete

/-! ### Tags -/

def tagLength? (cs : List Char) : Option Nat := do
  let p ← matchAt? tagShape [] cs
  match p.after with
  | '>' :: _ => some (p.position + 1)
  | '/' :: '>' :: _ => some (p.position + 2)
  | [] => none
  | c :: _ => if c.isAlpha || c = '=' || c = '/' then none else some p.position

def unquote (value : List Char) : List Char :=
  if value.head? = value.getLast? && (value.head? = some '\'' || value.head? = some '"') then
    (value.drop 1).dropLast
  else value

/-- The attributes from a place in a tag of the given length, and the place where they end. -/
def attributesFrom (tag : List Char) (length place : Nat) :
    (bound : Nat) → List (String × String) × Nat
  | 0 => ([], place)
  | bound + 1 =>
    if length ≤ place then ([], place)
    else
      match matchAt? attributeShape ((tag.take place).getLast?.toList) (tag.drop place) with
      | none => ([], place)
      | some p =>
        let value := (captured p 3).getD []
        let (attributes, stop) := attributesFrom tag length (place + p.position) bound
        ((nameOf ((captured p 1).getD []), .ofList (unescape (unquote value))) :: attributes, stop)

/-- A tag that opens an element; text if it does not end as a tag does. -/
def openingTag (cs : List Char) : Reading :=
  match tagLength? cs with
  | none => .incomplete
  | some length =>
    match matchAt? nameShape ['<'] (cs.drop 1) with
    | none => .incomplete
    | some p =>
      let name := nameOf ((captured p 1).getD [])
      let (attributes, place) := attributesFrom cs length (p.position + 1) (length + 1)
      let ending := Text.trimWhile Text.isBlank ((cs.take length).drop place)
      if ending = ['>'] then .done (some (.opening name attributes false)) length
      else if ending = ['/', '>'] then .done (some (.opening name attributes true)) length
      else .done (some (.text (cs.take length))) length

def bogusNote (cs : List Char) : Reading :=
  match Text.cutAt '>' (cs.drop 2) with
  | (content, some _) => .done (some (.note .comment content)) (content.length + 3)
  | (_, none) => .incomplete

/-- A tag that closes an element, outside of an element with raw content. -/
def closingTag (cs : List Char) : Reading :=
  if !cs.contains '>' then .incomplete
  else
    match matchAt? closingShape [] cs with
    | some p => .done (some (.closing (nameOf ((captured p 1).getD [])))) p.position
    | none =>
      match matchAt? nameShape [] (cs.drop 2) with
      | some p =>
        let skipped := (Text.cutAt '>' p.after).1.length
        .done (some (.closing (nameOf ((captured p 1).getD [])))) (p.position + skipped + 3)
      | none => if cs.take 3 = ['<', '/', '>'] then .done none 3 else bogusNote cs

/-! ### Notes -/

/-- A note that begins after so many characters and ends at a match of a pattern. -/
def noteUntil (regex : Regex) (start : Nat) (kind : NoteKind) (skip : Nat) (cs : List Char) : Reading :=
  match splitAtMatch? regex (cs.drop start) with
  | some (content, rest) =>
    .done (some (.note kind (content.drop skip))) (cs.length - rest.length)
  | none => .incomplete

def markedSection (cs : List Char) : Except Rejected Reading :=
  match matchAt? sectionName [] (cs.drop 3) with
  | none => if (cs.drop 3).isEmpty then .ok .incomplete else .error {}
  | some p =>
    let name := Text.lower (.ofList (Text.dropEndWhile Text.isBlank ((cs.drop 3).take p.position)))
    if p.after.isEmpty then .ok .incomplete
    else if name ∈ ["temp", "cdata", "ignore", "include", "rcdata"] then
      let isData := Text.upper (.ofList ((cs.drop 3).take 6)) = "CDATA["
      .ok (if isData then noteUntil sectionEnd 3 .section 6 cs else noteUntil sectionEnd 3 .declaration 0 cs)
    else if name ∈ ["if", "else", "endif"] then .ok (noteUntil conditionEnd 3 .declaration 0 cs)
    else .error {}

/-- What begins with an angle bracket and an exclamation mark. -/
def declaration (cs : List Char) : Except Rejected Reading :=
  if cs.take 4 = "<!--".toList then .ok (noteUntil commentEnd 4 .comment 0 cs)
  else if cs.take 3 = "<![".toList then markedSection cs
  else if nameOf (cs.take 9) = "<!doctype" then
    match Text.cutAt '>' (cs.drop 9) with
    | (content, some _) =>
      .ok (.done (some (.note .doctype (((cs.drop 2).take 7 ++ content).drop 8))) (content.length + 10))
    | (_, none) => .ok .incomplete
  else .ok (bogusNote cs)

/-- What begins with an angle bracket; `none` if it is the last character. -/
def markup (cs : List Char) : Except Rejected (Option Reading) := do
  match cs.drop 1 with
  | [] => return none
  | c :: _ =>
    if c.isAlpha then return some (openingTag cs)
    else if c = '/' then return some (closingTag cs)
    else if c = '?' then
      match Text.cutAt '>' (cs.drop 2) with
      | (content, some _) =>
        return some (.done (some (.note .instruction content)) (content.length + 3))
      | (_, none) => return some .incomplete
    else if c = '!' then return some (← declaration cs)
    else return some (.done (some (.text ['<'])) 1)

def brokenLength (cs : List Char) : Nat :=
  match Text.cutAt '>' (cs.drop 1) with
  | (content, some _) => content.length + 2
  | (_, none) =>
    match Text.cutAt '<' (cs.drop 1) with
    | (content, some _) => content.length + 1
    | (_, none) => 1

/-! ### References in text -/

/-- The name of a reference in text: the longest one that something other than a letter or digit
follows. -/
def entityName? (cs : List Char) : Option (List Char) :=
  match cs with
  | c :: rest =>
    if c.isAlpha then
      longest (c :: rest.takeWhile isPart) (rest.dropWhile isPart).head?
        ((rest.takeWhile isPart).length + 1)
    else none
  | [] => none
where
  isPart (c : Char) : Bool := c.isAlphanum || c = '-' || c = '.'
  longest (name : List Char) (next : Option Char) : Nat → Option (List Char)
    | 0 => none
    | length + 1 =>
      if next.any (!·.isAlphanum) then some (name.take (length + 1))
      else longest name name[length]? length

inductive Ampersand where
  /-- Text, in place of so many characters. -/
  | text (content : List Char) (length : Nat)
  /-- Reading stops here, after so many characters and with the given text. -/
  | stop (content : List Char) (length : Nat)

/-- A reference by number; without a number, the mark is text and reading stops. -/
def numberReference (cs : List Char) : Ampersand :=
  let (marked, rest) := match cs.drop 2 with
    | 'x' :: more | 'X' :: more => (true, more)
    | more => (false, more)
  let isPart := if marked then fun c => (hexDigit? c).isSome else Char.isDigit
  let digits := rest.takeWhile isPart
  let after := rest.dropWhile isPart
  if digits.isEmpty || after.head?.all (fun c => (hexDigit? c).isSome) then
    if cs.contains ';' then .stop ['&', '#'] 2 else .stop [] 0
  else
    let n := if marked then hexNumber digits else decimalNumber digits
    let length := cs.length - (skipSemicolon after).length
    .text [numbered n] length

def nameReference (final : Bool) (cs : List Char) : Ampersand :=
  match entityName? (cs.drop 1) with
  | some name =>
    let after := cs.drop (name.length + 1)
    .text ((named? name).getD ('&' :: name)) (cs.length - (skipSemicolon after).length)
  | none =>
    match cs.drop 1 with
    | [] => .stop [] 0
    | c :: rest =>
      if c.isAlpha then .stop [] (if final && rest.isEmpty then 1 else 0) else .text ['&'] 1

def ampersand (final : Bool) (cs : List Char) : Ampersand :=
  if cs.take 2 = ['&', '#'] then numberReference cs else nameReference final cs

/-! ### Pages -/

/-- Elements whose content is not markup. -/
def isRawElement (name : String) : Bool := name = "script" || name = "style"

/-- The content of a raw element and what begins with the tag that closes it. -/
def rawContent? (name : String) (cs : List Char) : Option (List Char × List Char) :=
  go [] cs
where
  ending : Regex := (Regex.read { ignoreCase := true } (r"</\s*" ++ name ++ r"\s*>")).toOption.getD .empty
  go (before : List Char) : List Char → Option (List Char × List Char)
    | [] => none
    | c :: rest =>
      match matchAt? ending before (c :: rest) with
      | some _ => some (before.reverse, c :: rest)
      | none => go (c :: before) rest

/-- The tokens of a text. Where something does not end, the rest is read once more, as the `final`
stretch: there, what does not end is text. -/
def tokensFrom (final : Bool) : (bound : Nat) → List Char → Except Rejected (List Token)
  | 0, _ => return []
  | _, [] => return []
  | bound + 1, c :: rest => do
    let cs := c :: rest
    let goOn (token : Option Token) (length : Nat) : Except Rejected (List Token) :=
      return token.toList ++ (← tokensFrom final bound (cs.drop length))
    if c = '<' then
      match ← markup cs with
      | none => if final then return [.text cs] else tokensFrom true bound cs
      | some .incomplete =>
        if final then goOn (some (.text (cs.take (brokenLength cs)))) (brokenLength cs)
        else tokensFrom true bound cs
      | some (.done token length) =>
        match token with
        | some (.opening name attributes false) =>
          if isRawElement name then
            match rawContent? name (cs.drop length) with
            | some (content, after) =>
              return [.opening name attributes false, .text content] ++ (← tokensFrom final bound after)
            | none => return [.opening name attributes false]
          else goOn token length
        | token => goOn token length
    else if c = '&' then
      match ampersand final cs with
      | .text content length => goOn (some (.text content)) length
      | .stop content length =>
        let after := cs.drop length
        let shown := if content.isEmpty then [] else [.text content]
        if final then return shown ++ [.text after]
        else return shown ++ (← tokensFrom true bound after)
    else
      let isPlain (c : Char) : Bool := c ≠ '<' && c ≠ '&'
      goOn (some (.text (cs.takeWhile isPlain))) (cs.takeWhile isPlain).length

def tokens (page : List Char) : Except Rejected (List Token) :=
  tokensFrom false (page.length + 2) page

end PromptTree.Html
