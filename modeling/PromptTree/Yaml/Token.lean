import PromptTree.Text.Utf8
import PromptTree.Yaml.Scalar

/-!
Texts as tokens. Indentation becomes tokens that open and close blocks. That something is a key shows only
at the colon after it: the tokens for keys are put in their places at the end (`weave`).
-/

namespace PromptTree.Yaml

/-- A line that is addressed to the reader. -/
inductive Directive where
  | version (major : Nat)
  | tag (handle lead : String)
  | other
deriving DecidableEq, Repr

inductive Token where
  | directive (d : Directive)
  | documentStart
  | documentEnd
  | blockListStart
  | blockMapStart
  | blockEnd
  | flowListStart
  | flowListEnd
  | flowMapStart
  | flowMapEnd
  | entry
  | flowEntry
  | key
  | value
  | alias (name : String)
  | anchor (name : String)
  | tag (handle : Option String) (suffix : String)
  | scalar (text : String) (plain : Bool)
deriving DecidableEq, Repr

namespace Scan

def word : Scan String := do
  let cs ← run isWordChar
  require !cs.isEmpty
  return .ofList cs

def anchorName : Scan String := do
  let name ← word
  let c ← peek
  require (isGap c || "?:,]\x7d%@`".contains c)
  return name

def tagHandle : Scan String := do
  require ((← peek) = '!')
  skip 1
  if (← peek) = ' ' then return "!"
  let cs ← run isWordChar
  require ((← peek) = '!')
  skip 1
  return "!" ++ String.ofList cs ++ "!"

def isTagChar (c : Char) : Bool :=
  c.isAlphanum || "-;/?:@&=+$,_.!~*'()[]".contains c

/-- Bytes that are each written as a percent sign and two digits. -/
def escapedBytes : Nat → Scan (List UInt8)
  | 0 => fail
  | fuel + 1 => do
    if (← peek) ≠ '%' then return []
    skip 1
    let n ← hexNumber 2
    return .ofNat n :: (← escapedBytes fuel)

def tagChars : Nat → Scan (List Char)
  | 0 => fail
  | fuel + 1 => do
    let plain ← run isTagChar
    if (← peek) = '%' then
      match Text.Utf8.decode (← escapedBytes ((← get).rest.length + 1)) with
      | .ok text => return plain ++ text.toList ++ (← tagChars fuel)
      | .error _ => fail
    else return plain

def tagSuffix : Scan String := do
  let before := (← get).index
  let cs ← tagChars ((← get).rest.length + 1)
  require ((← get).index ≠ before)
  return .ofList cs

def tagToken : Scan Token := do
  let c := (← get).peek 1
  let token ← (do
    if c = '<' then
      skip 2
      let suffix ← tagSuffix
      require ((← peek) = '>')
      skip 1
      return .tag none suffix
    else if isGap c then
      skip 1
      return .tag none "!"
    else
      let ahead := (← get).rest.drop 1 |>.takeWhile (!endsWord ·)
      let handle ← if ahead.contains '!' then tagHandle else (do skip 1; return "!")
      return .tag (some handle) (← tagSuffix))
  require (endsWord (← peek))
  return token

def decimal : Scan Nat := do
  let cs ← run Char.isDigit
  require !cs.isEmpty
  return cs.foldl (fun n c => n * 10 + (c.toNat - '0'.toNat)) 0

def directiveLine : Scan Directive := do
  skip 1
  let name ← word
  require (endsWord (← peek))
  let directive ← (do
    match name with
    | "YAML" =>
      blanks
      let major ← decimal
      require ((← peek) = '.')
      skip 1
      discard decimal
      require (endsWord (← peek))
      return .version major
    | "TAG" =>
      blanks
      let handle ← tagHandle
      require ((← peek) = ' ')
      blanks
      let lead ← tagSuffix
      require (endsWord (← peek))
      return .tag handle lead
    | _ =>
      discard (run (!endsLine ·))
      return .other)
  restOfLine
  return directive

end Scan

/-- A place where a key may begin. -/
structure Candidate where
  /-- The number of tokens before it. -/
  number : Nat
  /-- Nothing but a key can stand there. -/
  required : Bool
  line : Nat
  column : Nat
  index : Nat

/-- What has been read of a text. -/
structure Lexer where
  cursor : Cursor
  /-- The number of open brackets. -/
  depth : Nat
  /-- The indentation of the innermost block, and those of the blocks around it. -/
  indent : Int
  outer : List Int
  keyMayBegin : Bool
  /-- The latest place where a key may begin, for each number of open brackets. -/
  candidates : List (Nat × Candidate)
  /-- The tokens, the last first, and their number. -/
  tokens : List Token
  count : Nat
  /-- The places of keys, the last first, each with whether a block begins there. -/
  keys : List (Nat × Bool)

namespace Lexer

/-- Reading on in a text. -/
abbrev Lex := StateT Lexer (Except Fault)

/-- Reads from the place where the reading of tokens stands. -/
def scan {α : Type} (s : Scan α) : Lex α := do
  let l ← get
  match StateT.run s l.cursor with
  | .ok (a, cursor) =>
    set { l with cursor }
    return a
  | .error fault => throw fault

def fail {α : Type} : Lex α :=
  throw .malformed

def push (t : Token) : Lex Unit :=
  modify fun l => { l with tokens := t :: l.tokens, count := l.count + 1 }

def allowKey (allowed : Bool) : Lex Unit :=
  modify fun l => { l with keyMayBegin := allowed }

/-- Drops the places where a key cannot begin any more: those of earlier lines, and those far back. -/
def dropStale : Lex Unit := do
  let l ← get
  let isStale := fun (k : Candidate) => k.line ≠ l.cursor.line || l.cursor.index - k.index > 1024
  if l.candidates.any fun (_, k) => isStale k && k.required then fail
  set { l with candidates := l.candidates.filter fun (_, k) => !isStale k }

/-- Drops the place where a key may begin within the innermost brackets. -/
def dropCandidate : Lex Unit := do
  let l ← get
  if (l.candidates.lookup l.depth).any (·.required) then fail
  set { l with candidates := l.candidates.filter (·.1 ≠ l.depth) }

def noteCandidate : Lex Unit := do
  let l ← get
  if l.keyMayBegin then
    dropCandidate
    let k : Candidate :=
      { number := l.count, required := l.depth = 0 && l.indent = l.cursor.column
        line := l.cursor.line, column := l.cursor.column, index := l.cursor.index }
    modify fun l => { l with candidates := (l.depth, k) :: l.candidates }

/-- Closes the blocks that are indented by more than a column; none within brackets. -/
def unwind (column : Int) : Lex Unit := do
  let l ← get
  if l.depth ≠ 0 then return
  close l.outer.length
where
  /-- Closes at most so many blocks. -/
  close : Nat → Lex Unit
    | 0 => return
    | n + 1 => do
      let l ← get
      if l.indent > column then
        push .blockEnd
        modify fun l => { l with indent := l.outer.headD (-1), outer := l.outer.tail }
        close n

/-- Opens a block at a column, unless one is open there already. -/
def openBlock (column : Int) : Lex Bool := do
  let l ← get
  if l.indent < column then
    set { l with indent := column, outer := l.indent :: l.outer }
    return true
  else return false

/-- Goes to the next token, past blanks, comments and line ends. After a line end a key may begin. -/
def toNext : Nat → Lex Unit
  | 0 => fail
  | fuel + 1 => do
    scan do
      Scan.blanks
      Scan.comment
    if isBreak (← scan Scan.peek) then
      discard (scan Scan.lineBreak)
      if (← get).depth = 0 then allowKey true
      toNext fuel

/-- Reads a mark between documents or a directive, which closes all blocks. -/
def atMargin (read : Scan Token) : Lex Unit := do
  unwind (-1)
  dropCandidate
  allowKey false
  push (← scan read)

def openBracket (t : Token) : Lex Unit := do
  noteCandidate
  modify fun l => { l with depth := l.depth + 1 }
  allowKey true
  scan (Scan.skip 1)
  push t

def closeBracket (t : Token) : Lex Unit := do
  dropCandidate
  modify fun l => { l with depth := l.depth - 1 }
  allowKey false
  scan (Scan.skip 1)
  push t

def comma : Lex Unit := do
  allowKey true
  dropCandidate
  scan (Scan.skip 1)
  push .flowEntry

/-- Opens a block here for the first of its entries or keys, unless this is within brackets. -/
def openBlockHere (t : Token) : Lex Unit := do
  let l ← get
  if l.depth = 0 then
    if !l.keyMayBegin then fail
    if ← openBlock l.cursor.column then push t

def listEntry : Lex Unit := do
  openBlockHere .blockListStart
  allowKey true
  dropCandidate
  scan (Scan.skip 1)
  push .entry

def explicitKey : Lex Unit := do
  openBlockHere .blockMapStart
  allowKey ((← get).depth = 0)
  dropCandidate
  scan (Scan.skip 1)
  push .key

/-- Reads the sign of a value. What stands at the noted place becomes a key. -/
def valueSign : Lex Unit := do
  let l ← get
  match l.candidates.lookup l.depth with
  | some k =>
    modify fun l => { l with candidates := l.candidates.filter (·.1 ≠ l.depth) }
    let opens ← if l.depth = 0 then openBlock k.column else pure false
    modify fun l => { l with keys := (k.number, opens) :: l.keys }
    allowKey false
  | none =>
    openBlockHere .blockMapStart
    allowKey (l.depth = 0)
    dropCandidate
  scan (Scan.skip 1)
  push .value

def keyPart (read : Scan Token) : Lex Unit := do
  noteCandidate
  allowKey false
  push (← scan read)

def plainText : Lex Unit := do
  noteCandidate
  let l ← get
  let (text, ended) ← scan (Scan.plain (l.depth ≠ 0) (l.indent + 1))
  allowKey ended
  push (.scalar text true)

def blockText : Lex Unit := do
  allowKey true
  dropCandidate
  let l ← get
  push (.scalar (← scan (Scan.block l.indent)) false)

/-- The sign of an entry, key or value is next: the character is one only before a gap. -/
def isSign (ahead : Char) : Bool :=
  isGap ahead

/-- A plain text can begin with a character that another one follows. -/
def beginsPlain (inFlow : Bool) (c ahead : Char) : Bool :=
  !(isGap c || "-?:,[]\x7b\x7d#&*!|>'\"%@`".contains c) ||
    (!isGap ahead && (c = '-' || (!inFlow && (c = '?' || c = ':'))))

def next : Lex Bool := do
  if (← get).cursor.index = 0 && (← get).cursor.peek 0 = '\uFEFF' then scan (Scan.skip 1)
  toNext ((← get).cursor.rest.length + 1)
  dropStale
  unwind (← get).cursor.column
  let l ← get
  let inFlow := l.depth ≠ 0
  let c := l.cursor.peek 0
  let ahead := l.cursor.peek 1
  let atStart := l.cursor.column = 0
  if c = endMark then
    unwind (-1)
    dropCandidate
    return false
  if c = '%' && atStart then atMargin (Token.directive <$> Scan.directiveLine)
  else if atStart && l.cursor.atMark "---" then atMargin (do Scan.skip 3; return .documentStart)
  else if atStart && l.cursor.atMark "..." then atMargin (do Scan.skip 3; return .documentEnd)
  else if c = '[' then openBracket .flowListStart
  else if c = '\x7b' then openBracket .flowMapStart
  else if c = ']' then closeBracket .flowListEnd
  else if c = '\x7d' then closeBracket .flowMapEnd
  else if c = ',' then comma
  else if c = '-' && isSign ahead then listEntry
  else if c = '?' && (inFlow || isSign ahead) then explicitKey
  else if c = ':' && (inFlow || isSign ahead) then valueSign
  else if c = '*' then keyPart (do Scan.skip 1; return .alias (← Scan.anchorName))
  else if c = '&' then keyPart (do Scan.skip 1; return .anchor (← Scan.anchorName))
  else if c = '!' then keyPart Scan.tagToken
  else if (c = '|' || c = '>') && !inFlow then blockText
  else if c = '\'' || c = '"' then keyPart (do return .scalar (← Scan.quotedText) false)
  else if beginsPlain inFlow c ahead then plainText
  else fail
  return true

def all : Nat → Lex Unit
  | 0 => fail
  | fuel + 1 => do
    if ← next then all fuel

/-- Tokens with those for keys in their places, which are in order; `number` tokens come before them. -/
def weave (number : Nat) : (keys : List (Nat × Bool)) → List Token → List Token
  | _, [] => []
  | [], ts => ts
  | (place, opens) :: keys, t :: ts =>
    if place = number then
      (if opens then [.blockMapStart] else []) ++ .key :: t :: weave (number + 1) keys ts
    else t :: weave (number + 1) ((place, opens) :: keys) ts

end Lexer

def tokens (text : String) : Except Fault (List Token) := do
  let cs := text.toList
  unless cs.all isPrintable do throw .malformed
  let start : Lexer :=
    { cursor := .start cs, depth := 0, indent := -1, outer := [], keyMayBegin := true, candidates := []
      tokens := [], count := 0, keys := [] }
  let ((), l) ← (Lexer.all (cs.length + 1)).run start
  return Lexer.weave 0 (l.keys.mergeSort fun a b => a.1 ≤ b.1) l.tokens.reverse

end PromptTree.Yaml
