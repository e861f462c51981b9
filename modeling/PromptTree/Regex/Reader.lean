import PromptTree.Regex.Basic
import PromptTree.Text.Identifier

/-!
Reading patterns.
-/

namespace PromptTree.Regex

inductive Fault where
  /-- The text is not written as patterns are. -/
  | malformed
  /-- A number of repetitions is not below `maxRepeat`. -/
  | repeatTooLarge
  /-- A number of repetitions has more digits than a number may have. -/
  | numberTooLong (digits : Nat)
  /-- Classes should concern ASCII only and all scripts. -/
  | asciiAndAll
deriving DecidableEq, Repr

def Fault.message : Fault → String
  | malformed => "malformed pattern"
  | repeatTooLarge => "the repetition number is too large"
  | numberTooLong digits => Text.tooManyDigits digits
  | asciiAndAll => "ASCII and UNICODE flags are incompatible"

/-- Numbers of repetitions stay below this. -/
def maxRepeat : Nat := 4294967295

/-- One character of a pattern, or one after a backslash. -/
structure Token where
  escaped : Bool
  char : Char
deriving DecidableEq, Repr

/-- How far the reading of a pattern has come. -/
structure Reading where
  rest : List Char
  /-- The widths of the groups so far; a group that is still open has none. -/
  widths : List (Option Width)
  names : List (String × Nat)
  /-- How many groups there were where the outermost look back began. -/
  behind : Option Nat
  /-- Groups that conditions ask for. -/
  asked : List Nat
  /-- Some look back has no single width. -/
  uneven : Bool
  /-- Repetitions are not allowed. -/
  plainOnly : Bool

/-- A step of reading a pattern. -/
abbrev Reader := StateT Reading (Except Fault)

namespace Reader

def fail {α : Type} : Reader α := throw .malformed

def peek : Reader (Option Token) := do
  match (← get).rest with
  | [] => return none
  | ['\\'] => fail
  | '\\' :: c :: _ => return some ⟨true, c⟩
  | c :: _ => return some ⟨false, c⟩

def next : Reader (Option Token) := do
  let token ← peek
  match token with
  | some t => modify fun r => { r with rest := r.rest.drop (if t.escaped then 2 else 1) }
  | none => pure ()
  return token

/-- Takes a character if it comes next. -/
def accept (c : Char) : Reader Bool := do
  if (← peek) = some ⟨false, c⟩ then
    let _ ← next
    return true
  else return false

/-- Takes a character that has to come next. -/
def expect (c : Char) : Reader Unit := do
  if ← accept c then return () else fail

def takeUpTo (passes : Char → Bool) : Nat → Reader (List Char)
  | 0 => return []
  | n + 1 => do
    match ← peek with
    | some ⟨false, c⟩ =>
      if passes c then
        let _ ← next
        return c :: (← takeUpTo passes n)
      else return []
    | _ => return []

def takeAll (passes : Char → Bool) : Reader (List Char) := do
  takeUpTo passes (← get).rest.length

/-- Takes the tokens before a closing character, and the character. -/
def untilClosing (closing : Char) : Nat → Reader (List Char)
  | 0 => fail
  | bound + 1 => do
    match ← next with
    | none => fail
    | some t =>
      if !t.escaped && t.char = closing then return []
      else
        let text := if t.escaped then ['\\', t.char] else [t.char]
        return text ++ (← untilClosing closing bound)

def name (closing : Char) : Reader String := do
  let cs ← untilClosing closing ((← get).rest.length + 1)
  if cs.isEmpty then fail else return .ofList cs

def groupName (closing : Char) : Reader String := do
  let text ← name closing
  if Text.isIdentifier text then return text else fail

/-- Skips a comment up to the character that closes it, or up to the end if the end may close it. -/
def skipComment (closing : Char) (endCloses : Bool) : Nat → Reader Unit
  | 0 => return ()
  | bound + 1 => do
    match ← next with
    | none => if endCloses then return () else fail
    | some t => if t = ⟨false, closing⟩ then return () else skipComment closing endCloses bound

def comment (closing : Char) (endCloses : Bool) : Reader Unit := do
  skipComment closing endCloses ((← get).rest.length + 1)

/-! ### Escapes -/

def digitBelow? (base : Nat) (c : Char) : Option Nat :=
  let value :=
    if c.isDigit then some (c.toNat - 48)
    else if 'a' ≤ c && c ≤ 'f' then some (c.toNat - 87)
    else if 'A' ≤ c && c ≤ 'F' then some (c.toNat - 55)
    else none
  value.filter (· < base)

def number (base : Nat) (digits : List Char) : Nat :=
  Text.numberOfDigits base (digits.filterMap (digitBelow? base))

def hexCode (digits : Nat) : Reader Nat := do
  let cs ← takeUpTo (fun c => (digitBelow? 16 c).isSome) digits
  let code := number 16 cs
  if cs.length = digits && code ≤ 0x10FFFF then return code else fail

def octalRest : Reader (List Char) := takeUpTo (fun c => (digitBelow? 8 c).isSome) 2

def controls : List (Char × Nat) :=
  [('a', 7), ('f', 12), ('n', 10), ('r', 13), ('t', 9), ('v', 11), ('\\', 92)]

/-- Classes that have a letter, and whether it stands for the complement. -/
def categories : List (Char × Category × Bool) :=
  [('d', .digit, false), ('D', .digit, true), ('s', .blank, false), ('S', .blank, true),
   ('w', .word, false), ('W', .word, true)]

/-- The code point of an escaped character that is no digit, class or place. -/
def escapedCode (c : Char) : Reader Nat := do
  match controls.lookup c with
  | some code => return code
  | none =>
    match c with
    | 'x' => hexCode 2
    | 'u' => hexCode 4
    | 'U' => hexCode 8
    | c => if c.isAlpha then fail else return c.toNat

/-- An entry of a set that begins with an escaped character. -/
def setEscape (c : Char) : Reader SetItem := do
  match categories.lookup c with
  | some (category, negated) => return .category category negated
  | none =>
    if c = 'b' then return .range 8 8
    else if c.isDigit then
      if (digitBelow? 8 c).isSome then
        let code := number 8 (c :: (← octalRest))
        if code ≤ 255 then return .range code code else fail
      else fail
    else
      let code ← escapedCode c
      return .range code code

def isClosed (group : Nat) : Reader Bool := do
  return group ≠ 0 && ((← get).widths[group - 1]?.getD none).isSome

/-- Inside a look back only groups from outside can be referred to. -/
def checkBehind (group : Nat) : Reader Unit := do
  match (← get).behind with
  | none => return ()
  | some count => if (← isClosed group) && group ≤ count then return () else fail

def again (options : Options) (group : Nat) : Reader Regex := do
  if ← isClosed group then
    checkBehind group
    return .again group options.ignoreCase options.ascii
  else fail

/-- A digit after a backslash: three octal digits are a code point, else it is a reference. -/
def digitEscape (options : Options) (c : Char) : Reader Regex := do
  if c = '0' then return .one (.single options (number 8 (c :: (← octalRest))))
  else
    match ← takeUpTo Char.isDigit 1 with
    | [second] =>
      if (digitBelow? 8 c).isSome && (digitBelow? 8 second).isSome then
        match ← takeUpTo (fun d => (digitBelow? 8 d).isSome) 1 with
        | [third] =>
          let code := number 8 [c, second, third]
          if code ≤ 255 then return .one (.single options code) else fail
        | _ => again options (number 10 [c, second])
      else again options (number 10 [c, second])
    | _ => again options (number 10 [c])

/-- Part of a sequence, and whether it can be repeated. -/
structure Item where
  regex : Regex
  repeatable : Bool

def escape (options : Options) (c : Char) : Reader Item := do
  match c with
  | 'A' => return ⟨.anchor .textStart, false⟩
  | 'Z' => return ⟨.anchor .textEnd, false⟩
  | 'b' => return ⟨.anchor (.boundary options.ascii), false⟩
  | 'B' => return ⟨.anchor (.notBoundary options.ascii), false⟩
  | c =>
    match categories.lookup c with
    | some (category, negated) => return ⟨.one (.ofCategory options category negated), true⟩
    | none =>
      if c.isDigit then return ⟨← digitEscape options c, true⟩
      else return ⟨.one (.single options (← escapedCode c)), true⟩

/-! ### Sets -/

def setItem (t : Token) : Reader SetItem :=
  if t.escaped then setEscape t.char else return .range t.char.toNat t.char.toNat

def rangeTo : SetItem → SetItem → Reader SetItem
  | .range low _, .range high _ => if low ≤ high then return .range low high else fail
  | _, _ => fail

/-- The entries of a set, up to the bracket that closes it. The first entry may be that bracket. -/
def setItems (first : Bool) : Nat → Reader (List SetItem)
  | 0 => fail
  | bound + 1 => do
    match ← next with
    | none => fail
    | some t =>
      if t = ⟨false, ']'⟩ && !first then return []
      else
        let low ← setItem t
        if ← accept '-' then
          match ← next with
          | none => fail
          | some u =>
            if u = ⟨false, ']'⟩ then return [low, .range 0x2D 0x2D]
            else
              let item ← rangeTo low (← setItem u)
              return item :: (← setItems false bound)
        else return low :: (← setItems false bound)

def charSet (options : Options) : Reader CharSet := do
  let negated ← accept '^'
  let items ← setItems true ((← get).rest.length + 1)
  return ⟨items, negated, options.ignoreCase, options.ascii⟩

/-! ### Repetitions -/

/-- A number of repetitions; an absent one counts as given. -/
def repeatCount (absent : Option Nat) (digits : List Char) : Reader (Option Nat) := do
  if digits.isEmpty then return absent
  else if digits.length > Text.maxNumberDigits then throw (.numberTooLong digits.length)
  else
    let n := number 10 digits
    if n < maxRepeat then return some n else throw .repeatTooLarge

/-- The bounds between braces after the opening one, or nothing if there are none. -/
def bounds : Reader (Option (Nat × Option Nat)) := do
  let start ← get
  if (← peek) = some ⟨false, '}'⟩ then return none
  else
    let low ← takeAll Char.isDigit
    let high ← if ← accept ',' then takeAll Char.isDigit else pure low
    if ← accept '}' then
      let least := (← repeatCount (some 0) low).getD 0
      let most ← repeatCount none high
      if most.any (· < least) then fail else return some (least, most)
    else
      set start
      return none

def quantify (least : Nat) (most : Option Nat) : List Item → Reader (List Item)
  | [] => fail
  | item :: items => do
    if !item.repeatable || (← get).plainOnly then fail
    else
      let fewest ← accept '?'
      let possessive ← if fewest then pure false else accept '+'
      let greed := if fewest then Greed.fewest else if possessive then .possessive else .most
      return ⟨.repeated least most greed item.regex, false⟩ :: items

/-! ### Options -/

def isOption (c : Char) : Bool := c ∈ ['i', 'L', 'm', 's', 'x', 'a', 't', 'u']

/-- The options between a question mark and what ends them: those that are turned on, those that are
turned off, and whether they hold for the whole pattern. -/
structure Switches where
  on : List Char
  off : List Char
  whole : Bool

/-- Option letters from a first one on, and what ends them. -/
def letters (ends : List Char) (c : Char) : Nat → Reader (List Char × Char)
  | 0 => fail
  | bound + 1 => do
    if !isOption c then fail
    else
      match ← next with
      | some ⟨false, d⟩ =>
        if d ∈ ends then return ([c], d)
        else
          let (more, ending) ← letters ends d bound
          return (c :: more, ending)
      | _ => fail

def lettersOff : Reader (List Char) := do
  match ← next with
  | some ⟨false, c⟩ =>
    let (off, _) ← letters [':'] c ((← get).rest.length + 1)
    if off.any (· ∈ ['a', 'L', 'u', 't']) then fail else return off
  | _ => fail

def switches (c : Char) : Reader Switches := do
  let (on, ending) ←
    if c = '-' then pure ([], '-') else letters [')', '-', ':'] c ((← get).rest.length + 1)
  if 'L' ∈ on || ('a' ∈ on && 'u' ∈ on) then fail
  else if ending = ')' then return ⟨on, [], true⟩
  else if 't' ∈ on then fail
  else
    let off ← if ending = '-' then lettersOff else pure []
    if on.any (· ∈ off) then fail else return ⟨on, off, false⟩

def Switches.apply (s : Switches) (options : Options) : Options :=
  let switch (letter : Char) (value : Bool) := (value || letter ∈ s.on) && !(letter ∈ s.off)
  { ignoreCase := switch 'i' options.ignoreCase
    multiline := switch 'm' options.multiline
    dotAll := switch 's' options.dotAll
    ascii := if 'u' ∈ s.on then false else switch 'a' options.ascii }

def Switches.applyVerbose (s : Switches) (verbose : Bool) : Bool :=
  (verbose || 'x' ∈ s.on) && !('x' ∈ s.off)

/-! ### Groups -/

def openGroup (name : Option String) : Reader Nat := do
  let r ← get
  let group := r.widths.length + 1
  if name.any fun n => (r.names.lookup n).isSome then fail
  else
    set { r with
      widths := r.widths ++ [none]
      names := (name.map fun n => (n, group)).toList ++ r.names }
    return group

/-- The width of a pattern whose groups have all been read. -/
def widthOf (regex : Regex) : Reader Width := do
  let widths := (← get).widths
  return regex.width fun group => (widths[group - 1]?.getD none).getD (.exactly 0)

def closeGroup (group : Nat) (body : Regex) : Reader Unit := do
  let width ← widthOf body
  modify fun r => { r with widths := r.widths.set (group - 1) (some width) }

def condition : Reader Nat := do
  let text ← name ')'
  let asked ←
    if Text.isIdentifier text then
      match (← get).names.lookup text with
      | some named => pure named
      | none => fail
    else
      match Text.readInt? text with
      | some n => if n ≤ 0 then fail else pure n.toNat
      | none => fail
  modify fun r => { r with asked := asked :: r.asked }
  checkBehind asked
  return asked

/-- The blanks that may stand between tokens where blanks are skipped. -/
def isSkipped (c : Char) : Bool := c ∈ [' ', '\t', '\n', '\r', '\x0b', '\x0c']

def lineAnchor (options : Options) (c : Char) : Anchor :=
  if c = '^' then if options.multiline then .lineStart else .textStart
  else if options.multiline then .lineEnd else .lastLineEnd

def dotSet (options : Options) : CharSet :=
  if options.dotAll then ⟨[], true, false, false⟩ else ⟨[.range 10 10], true, false, false⟩

mutual

def alternatives (options : Options) (verbose : Bool) : (bound : Nat) → Reader Regex
  | 0 => fail
  | bound + 1 => do
    let first ← sequence options verbose [] bound
    if ← accept '|' then return .either first (← alternatives options verbose bound)
    else return first

/-- A sequence up to a bar, a closing parenthesis or the end; `items` are those before, the last
first. -/
def sequence (options : Options) (verbose : Bool) (items : List Item) : (bound : Nat) → Reader Regex
  | 0 => fail
  | bound + 1 => do
    let token ← peek
    if token ∈ [none, some ⟨false, '|'⟩, some ⟨false, ')'⟩] then
      return .ofList (items.reverse.map (·.regex))
    else
      let _ ← next
      let char := (token.map (·.char)).getD ' '
      if token.any (·.escaped) then
        let item ← escape options char
        sequence options verbose (item :: items) bound
      else if verbose && isSkipped char then sequence options verbose items bound
      else if verbose && char = '#' then
        comment '\n' true
        sequence options verbose items bound
      else
        match char with
        | '.' => sequence options verbose (⟨.one (dotSet options), true⟩ :: items) bound
        | '^' | '$' =>
          sequence options verbose (⟨.anchor (lineAnchor options char), false⟩ :: items) bound
        | '[' =>
          let set ← charSet options
          sequence options verbose (⟨.one set, true⟩ :: items) bound
        | '*' => sequence options verbose (← quantify 0 none items) bound
        | '+' => sequence options verbose (← quantify 1 none items) bound
        | '?' => sequence options verbose (← quantify 0 (some 1) items) bound
        | '{' =>
          match ← bounds with
          | some (least, most) => sequence options verbose (← quantify least most items) bound
          | none =>
            sequence options verbose (⟨.one (.single options char.toNat), true⟩ :: items) bound
        | '(' =>
          match ← group options verbose bound with
          | some regex => sequence options verbose (⟨regex, true⟩ :: items) bound
          | none => sequence options verbose items bound
        | c => sequence options verbose (⟨.one (.single options c.toNat), true⟩ :: items) bound

/-- What stands between parentheses, after the opening one; a comment is nothing. -/
def group (options : Options) (verbose : Bool) : (bound : Nat) → Reader (Option Regex)
  | 0 => fail
  | bound + 1 => do
    if ← accept '?' then
      match ← next with
      | some ⟨false, 'P'⟩ =>
        match ← next with
        | some ⟨false, '<'⟩ =>
          let name ← groupName '>'
          some <$> capture options verbose (some name) bound
        | some ⟨false, '='⟩ =>
          let name ← groupName ')'
          match (← get).names.lookup name with
          | some number => some <$> again options number
          | none => fail
        | _ => fail
      | some ⟨false, '#'⟩ =>
        comment ')' false
        return none
      | some ⟨false, ':'⟩ => some <$> enclosed options verbose bound
      | some ⟨false, '>'⟩ => return some (.atomic (← enclosed options verbose bound))
      | some ⟨false, '='⟩ => return some (.ahead false (← enclosed options verbose bound))
      | some ⟨false, '!'⟩ => return some (.ahead true (← enclosed options verbose bound))
      | some ⟨false, '<'⟩ =>
        match ← next with
        | some ⟨false, '='⟩ => some <$> lookBehind options verbose false bound
        | some ⟨false, '!'⟩ => some <$> lookBehind options verbose true bound
        | _ => fail
      | some ⟨false, '('⟩ =>
        let asked ← condition
        let yes ← sequence options verbose [] bound
        let no ← if ← accept '|' then sequence options verbose [] bound else pure .empty
        expect ')'
        return some (.ifGroup asked yes no)
      | some ⟨false, c⟩ =>
        if isOption c || c = '-' then
          let s ← switches c
          if s.whole then fail
          else some <$> enclosed (s.apply options) (s.applyVerbose verbose) bound
        else fail
      | _ => fail
    else some <$> capture options verbose none bound

def enclosed (options : Options) (verbose : Bool) : (bound : Nat) → Reader Regex
  | 0 => fail
  | bound + 1 => do
    let body ← alternatives options verbose bound
    expect ')'
    return body

def capture (options : Options) (verbose : Bool) (name : Option String) : (bound : Nat) → Reader Regex
  | 0 => fail
  | bound + 1 => do
    let number ← openGroup name
    let body ← enclosed options verbose bound
    closeGroup number body
    return .group number body

def lookBehind (options : Options) (verbose negated : Bool) : (bound : Nat) → Reader Regex
  | 0 => fail
  | bound + 1 => do
    let outer := (← get).behind
    modify fun r => { r with behind := some (outer.getD r.widths.length) }
    let body ← alternatives options verbose bound
    modify fun r => { r with behind := outer }
    expect ')'
    let width ← widthOf body
    if width.least ≠ width.most || width.least > maxRepeat then
      modify fun r => { r with uneven := true }
    return .behind negated width.least body

end

/-- The options that a pattern begins with, those given before them, and whether blanks are skipped.
They may stand among comments. -/
def leading (on : List Char) : Nat → Reader (List Char)
  | 0 => return on
  | bound + 1 => do
    let start ← get
    match start.rest with
    | '(' :: '?' :: '#' :: rest =>
      set { start with rest }
      comment ')' false
      leading on bound
    | '(' :: '?' :: c :: rest =>
      if isOption c then
        set { start with rest }
        let s ← switches c
        if s.whole then leading (on ++ s.on) bound
        else
          set start
          return on
      else return on
    | c :: rest =>
      if 'x' ∈ on && isSkipped c then
        set { start with rest }
        leading on bound
      else if 'x' ∈ on && c = '#' then
        set { start with rest }
        comment '\n' true
        leading on bound
      else return on
    | [] => return on

def whole (options : Options) : Reader Regex := do
  let length := (← get).rest.length
  let on ← leading [] (length + 1)
  modify fun r => { r with plainOnly := 't' ∈ on }
  let ascii := 'a' ∈ on
  let s : Switches := ⟨on.filter (· ≠ 'u'), [], true⟩
  let regex ← alternatives (s.apply options) ('x' ∈ on) (4 * length + 8)
  if ascii && 'u' ∈ on then throw .asciiAndAll
  let r ← get
  if !r.rest.isEmpty || r.uneven || r.asked.any (r.widths.length < ·) then fail
  else return regex

end Reader

def read (options : Options) (text : String) : Except Fault Regex :=
  (Reader.whole options).run' ⟨text.toList, [], [], none, [], false, false⟩

def fault? (text : String) : Option Fault :=
  match read {} text with
  | .ok _ => none
  | .error fault => some fault

end PromptTree.Regex
