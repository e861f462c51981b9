import PromptTree.Yaml.Cursor

/-!
The texts of scalars: plain, quoted, and in blocks of lines.
-/

namespace PromptTree.Yaml.Scan

/-! ### Plain text -/

/-- A plain text ends before the character `c` that `ahead` follows. -/
def endsPlain (inFlow : Bool) (c ahead : Char) : Bool :=
  isGap c || (c = ':' && (isGap ahead || (inFlow && ",[]\x7b\x7d".contains ahead))) ||
    (inFlow && ",?[]\x7b\x7d".contains c)

def plainRun (inFlow : Bool) : List Char → List Char
  | [] => []
  | c :: rest => if endsPlain inFlow c (rest.headD endMark) then [] else c :: plainRun inFlow rest

/-- Blanks and line ends after the first line end inside of a plain text; nothing before a mark between
documents. -/
def plainBreaks : Nat → Scan (Option (List Char))
  | 0 => fail
  | fuel + 1 => do
    let c ← peek
    if c = ' ' then
      skip 1
      plainBreaks fuel
    else if isBreak c then
      let ends ← lineBreak
      if (← get).atSeparator then return none
      return (← plainBreaks fuel).map (ends ++ ·)
    else return some []

/-- What several line ends stand for: a single line feed for a blank, further ones for themselves. -/
def folded (first breaks : List Char) : List Char :=
  if first ≠ ['\n'] then first ++ breaks
  else if breaks.isEmpty then [' '] else breaks

/-- What stands between two runs of a plain text, and whether it holds a line end. Nothing comes back where
the text has to end. -/
def plainGap : Scan (Option (List Char) × Bool) := do
  let blank ← run (· = ' ')
  if isBreak (← peek) then
    let first ← lineBreak
    if (← get).atSeparator then return (none, true)
    let breaks ← plainBreaks ((← get).rest.length + 1)
    return (breaks.map (folded first), true)
  else return (if blank.isEmpty then none else some blank, false)

/-- The rest of a plain text after a gap in it. If anything is read, the gap comes with it, and it is told
whether a line end follows. -/
def plainRest (inFlow : Bool) (indent : Int) : Nat → (gap : List Char) → Scan (List Char × Option Bool)
  | 0, _ => fail
  | fuel + 1, gap => do
    let cs := plainRun inFlow (← get).rest
    if cs.isEmpty || (← peek) = '#' then return ([], none)
    skip cs.length
    match ← plainGap with
    | (none, ended) => return (gap ++ cs, some ended)
    | (some next, ended) =>
      if (← peek) = '#' || (!inFlow && (← get).column < indent) then return (gap ++ cs, some ended)
      let (rest, after) ← plainRest inFlow indent fuel next
      return (gap ++ cs ++ rest, some (after.getD ended))

/-- A plain text, and whether a line end follows it. Outside of brackets its lines are indented by at least
`indent`. -/
def plain (inFlow : Bool) (indent : Int) : Scan (String × Bool) := do
  let (cs, ended) ← plainRest inFlow indent ((← get).rest.length + 1) []
  return (.ofList cs, ended.getD false)

/-! ### Quoted text -/

def escape? : Char → Option Char
  | '0' => some '\x00'
  | 'a' => some '\x07'
  | 'b' => some '\x08'
  | 't' | '\t' => some '\t'
  | 'n' => some '\n'
  | 'v' => some '\x0B'
  | 'f' => some '\x0C'
  | 'r' => some '\r'
  | 'e' => some '\x1B'
  | ' ' => some ' '
  | '"' => some '"'
  | '\\' => some '\\'
  | '/' => some '/'
  | 'N' => some '\x85'
  | '_' => some '\xA0'
  | 'L' => some '\u2028'
  | 'P' => some '\u2029'
  | _ => none

/-- The number of digits of the code point that the character after a backslash announces. -/
def escapeLength? : Char → Option Nat
  | 'x' => some 2
  | 'u' => some 4
  | 'U' => some 8
  | _ => none

def hexValue? (c : Char) : Option Nat :=
  if c.isDigit then some (c.toNat - '0'.toNat)
  else if 'a' ≤ c ∧ c ≤ 'f' then some (c.toNat - 'a'.toNat + 10)
  else if 'A' ≤ c ∧ c ≤ 'F' then some (c.toNat - 'A'.toNat + 10)
  else none

def hexNumber (digits : Nat) : Scan Nat := do
  match ((← get).rest.take digits).mapM hexValue? with
  | some values =>
    require (values.length = digits)
    skip digits
    return values.foldl (fun n d => n * 16 + d) 0
  | none => fail

/-- The line ends and blanks after the first line end inside of a quoted text. -/
def quotedBreaks : Nat → Scan (List Char)
  | 0 => fail
  | fuel + 1 => do
    if (← get).atSeparator then fail
    discard (run fun c => c = ' ' || c = '\t')
    if isBreak (← peek) then
      let ends ← lineBreak
      return ends ++ (← quotedBreaks fuel)
    else return []

def escaped : Scan (List Char) := do
  let c ← peek
  match escape? c, escapeLength? c with
  | some meant, _ =>
    skip 1
    return [meant]
  | none, some digits =>
    skip 1
    let n ← hexNumber digits
    if n < 0x110000 then return [.ofNat n] else throw (.codePoint n)
  | none, none =>
    require (isBreak c)
    discard lineBreak
    quotedBreaks ((← get).rest.length + 1)

def quotedGap : Scan (List Char) := do
  let blank ← run fun c => c = ' ' || c = '\t'
  let c ← peek
  if c = endMark then fail
  else if isBreak c then
    let first ← lineBreak
    let breaks ← quotedBreaks ((← get).rest.length + 1)
    return folded first breaks
  else return blank

def quotedRest (double : Bool) : Nat → Scan (List Char)
  | 0 => fail
  | fuel + 1 => do
    let c ← peek
    let ahead := (← get).peek 1
    if !double && c = '\'' && ahead = '\'' then
      skip 2
      return '\'' :: (← quotedRest double fuel)
    else if c = (if double then '"' else '\'') then
      skip 1
      return []
    else if double && c = '\\' then
      skip 1
      let meant ← escaped
      return meant ++ (← quotedRest double fuel)
    else if isGap c then
      let gap ← quotedGap
      return gap ++ (← quotedRest double fuel)
    else
      skip 1
      return c :: (← quotedRest double fuel)

def quotedText : Scan String := do
  let double := (← peek) = '"'
  skip 1
  return .ofList (← quotedRest double ((← get).rest.length + 1))

/-! ### Blocks of lines -/

/-- What becomes of the line ends at the end of a block. -/
inductive Chomping where
  | strip
  | clip
  | keep
deriving DecidableEq, Repr

/-- The sign for what becomes of the line ends at the end of a block. -/
def chomping : Scan Chomping := do
  match ← peek with
  | '+' =>
    skip 1
    return .keep
  | '-' =>
    skip 1
    return .strip
  | _ => return .clip

def blockIndent : Scan (Option Nat) := do
  let c ← peek
  if c.isDigit then
    require (c ≠ '0')
    skip 1
    return some (c.toNat - '0'.toNat)
  else return none

def blockSigns : Scan (Chomping × Option Nat) := do
  let first ← chomping
  let indent ← blockIndent
  let chomp ← if first = .clip && indent.isSome then chomping else pure first
  require (endsWord (← peek))
  return (chomp, indent)

/-- The empty lines before a block, and the greatest indentation among them and the first line of it. -/
def blockStart : Nat → (greatest : Nat) → Scan (List Char × Nat)
  | 0, _ => fail
  | fuel + 1, greatest => do
    let c ← peek
    if c = ' ' then
      skip 1
      blockStart fuel (max greatest (← get).column)
    else if isBreak c then
      let ends ← lineBreak
      let (rest, greatest) ← blockStart fuel greatest
      return (ends ++ rest, greatest)
    else return ([], greatest)

/-- Goes to the indentation of a block, if the line has so many blanks. -/
def blockIndentation (indent : Nat) : Scan Unit := do
  let c ← get
  skip ((c.rest.takeWhile (· = ' ')).length.min (indent - c.column))

def blockBreaks (indent : Nat) : Nat → Scan (List Char)
  | 0 => fail
  | fuel + 1 => do
    blockIndentation indent
    if isBreak (← peek) then
      let ends ← lineBreak
      return ends ++ (← blockBreaks indent fuel)
    else return []

/-- The lines of a block after the empty lines `breaks`; its last line end and the empty lines after it come
separately. -/
def blockLines (folding : Bool) (indent : Nat) :
    Nat → (breaks : List Char) → Scan (List Char × List Char × List Char)
  | 0, _ => fail
  | fuel + 1, breaks => do
    if (← get).column = indent && (← peek) ≠ endMark then
      let fromText := !(" \t".contains (← peek))
      let line ← run (!endsLine ·)
      let first ← lineBreak
      let more ← blockBreaks indent ((← get).rest.length + 1)
      let c ← peek
      if (← get).column = indent && c ≠ endMark then
        let between :=
          if folding && first = ['\n'] && fromText && !(" \t".contains c) then
            if more.isEmpty then [' '] else []
          else first
        let (rest, last) ← blockLines folding indent fuel more
        return (breaks ++ line ++ between ++ rest, last)
      else return (breaks ++ line, first, more)
    else return ([], [], breaks)

/-- A block of lines under a line that is indented by `indent`. -/
def block (indent : Int) : Scan String := do
  let folding := (← peek) = '>'
  skip 1
  let (chomp, given) ← blockSigns
  restOfLine
  let least := (indent + 1).toNat.max 1
  let length := (← get).rest.length + 1
  let (breaks, inner) ← (do
    match given with
    | none =>
      let (breaks, greatest) ← blockStart length 0
      return (breaks, least.max greatest)
    | some n =>
      let inner := least + n - 1
      return (← blockBreaks inner length, inner))
  let (lines, last, more) ← blockLines folding inner length breaks
  return .ofList (lines ++ (if chomp = .strip then [] else last) ++ (if chomp = .keep then more else []))

end PromptTree.Yaml.Scan
