import PromptTree.Value.Basic
import PromptTree.Decimal.Reading
import PromptTree.Text.Split

/-!
Values read from JSON, with the place and the cause of the first fault. Besides the numbers of the
format, infinities and what is not a number are read by name.
-/

namespace PromptTree.Json

inductive Cause where
  | expectingValue
  | expectingName
  | expectingColon
  | expectingComma
  | unterminatedString
  | invalidControlCharacter
  | invalidEscape
  | invalidUnicodeEscape
  | extraData
  | byteOrderMark
deriving DecidableEq, Repr

/-- A fault, at the character with the given number. -/
structure Fault where
  cause : Cause
  position : Nat
deriving DecidableEq, Repr

def Cause.message : Cause → String
  | .expectingValue => "Expecting value"
  | .expectingName => "Expecting property name enclosed in double quotes"
  | .expectingColon => "Expecting ':' delimiter"
  | .expectingComma => "Expecting ',' delimiter"
  | .unterminatedString => "Unterminated string starting at"
  | .invalidControlCharacter => "Invalid control character at"
  | .invalidEscape => "Invalid \\escape"
  | .invalidUnicodeEscape => "Invalid \\uXXXX escape"
  | .extraData => "Extra data"
  | .byteOrderMark => "Unexpected UTF-8 BOM (decode using utf-8-sig)"

/-- The wording of a fault in a text, with the line and the column of its place. -/
def Fault.message (f : Fault) (text : String) : String :=
  let before := text.toList.take f.position
  let line := before.count '\n' + 1
  let column := (before.reverse.takeWhile (· ≠ '\n')).length + 1
  s!"{f.cause.message}: line {line} column {column} (char {f.position})"

/-- The rest of a text, and the number of characters in front of it. -/
structure Cursor where
  position : Nat
  rest : List Char

def Cursor.skip (c : Cursor) (count : Nat) : Cursor :=
  ⟨c.position + count, c.rest.drop count⟩

def isBlank (c : Char) : Bool :=
  c == ' ' || c == '\t' || c == '\n' || c == '\r'

def Cursor.skipBlanks (c : Cursor) : Cursor :=
  c.skip (c.rest.takeWhile isBlank).length

def Cursor.fail {α : Type} (c : Cursor) (cause : Cause) : Except Fault α :=
  .error ⟨cause, c.position⟩

def hexDigit? (c : Char) : Option Nat :=
  if '0' ≤ c && c ≤ '9' then some (c.toNat - '0'.toNat)
  else if 'a' ≤ c && c ≤ 'f' then some (c.toNat - 'a'.toNat + 10)
  else if 'A' ≤ c && c ≤ 'F' then some (c.toNat - 'A'.toNat + 10)
  else none

/-- The number of four hexadecimal digits, if so many stand at the start. -/
def unit? (cs : List Char) : Option Nat :=
  match (cs.take 4).mapM hexDigit? with
  | some [a, b, c, d] => some (((a * 16 + b) * 16 + c) * 16 + d)
  | _ => none

def simpleEscape? : Char → Option Char
  | '"' => some '"'
  | '\\' => some '\\'
  | '/' => some '/'
  | 'b' => some '\x08'
  | 'f' => some '\x0c'
  | 'n' => some '\n'
  | 'r' => some '\r'
  | 't' => some '\t'
  | _ => none

/-- The second half of a character in two escapes, if it follows. -/
def lowHalf? (cs : List Char) : Option (Except Unit Nat) :=
  match cs with
  | '\\' :: 'u' :: rest =>
    if rest.length < 5 then none
    else match unit? rest with
      | none => some (.error ())
      | some n => if 0xDC00 ≤ n && n < 0xE000 then some (.ok n) else none
  | _ => none

/-- The text up to the closing quote, and the cursor behind it. `start` is the place of the opening
quote. -/
def readString (start position : Nat) : List Char → Except Fault (List Char × Cursor)
  | [] => .error ⟨.unterminatedString, start⟩
  | '"' :: rest => .ok ([], ⟨position + 1, rest⟩)
  | ['\\'] => .error ⟨.unterminatedString, start⟩
  | '\\' :: 'u' :: rest =>
    match if rest.length < 5 then none else unit? rest with
    | none => .error ⟨.invalidUnicodeEscape, position + 1⟩
    | some high =>
      match if 0xD800 ≤ high && high < 0xDC00 then lowHalf? (rest.drop 4) else none with
      | some (.error _) => .error ⟨.invalidUnicodeEscape, position + 7⟩
      | some (.ok low) =>
        let c := Char.ofNat (0x10000 + (high - 0xD800) * 0x400 + (low - 0xDC00))
        (readString start (position + 12) (rest.drop 10)).map fun (cs, cur) => (c :: cs, cur)
      | none =>
        (readString start (position + 6) (rest.drop 4)).map fun (cs, cur) =>
          (Char.ofNat high :: cs, cur)
  | '\\' :: e :: rest =>
    match simpleEscape? e with
    | some c => (readString start (position + 2) rest).map fun (cs, cur) => (c :: cs, cur)
    | none => .error ⟨.invalidEscape, position⟩
  | c :: rest =>
    if c.toNat < 0x20 then .error ⟨.invalidControlCharacter, position⟩
    else (readString start (position + 1) rest).map fun (cs, cur) => (c :: cs, cur)
termination_by cs => cs.length
decreasing_by all_goals simp only [List.length_cons, List.length_drop]; omega

def isDigit (c : Char) : Bool :=
  '0' ≤ c && c ≤ '9'

/-- The digits of a number without its sign: a zero, or digits of which the first is not zero. -/
def wholeDigits (cs : List Char) : List Char :=
  match cs with
  | '0' :: _ => ['0']
  | cs => cs.takeWhile isDigit

/-- The fraction at the start, with its point; empty if there is none. -/
def fractionChars (cs : List Char) : List Char :=
  match cs with
  | '.' :: rest =>
    let digits := rest.takeWhile isDigit
    if digits.isEmpty then [] else '.' :: digits
  | _ => []

/-- The power of ten at the start, with its mark; empty if there is none. -/
def powerChars (cs : List Char) : List Char :=
  match cs with
  | e :: rest =>
    if e = 'e' || e = 'E' then
      let sign := match rest with
        | '-' :: _ | '+' :: _ => rest.take 1
        | _ => []
      let digits := (rest.drop sign.length).takeWhile isDigit
      if digits.isEmpty then [] else e :: sign ++ digits
    else []
  | [] => []

def readNumber (c : Cursor) : Except Fault (Value × Cursor) :=
  let sign := match c.rest with
    | '-' :: _ => ['-']
    | _ => []
  let whole := wholeDigits (c.rest.drop sign.length)
  if whole.isEmpty then c.fail .expectingValue
  else
    let fraction := fractionChars (c.rest.drop (sign.length + whole.length))
    let power := powerChars (c.rest.drop (sign.length + whole.length + fraction.length))
    let chars := sign ++ whole ++ fraction ++ power
    let value :=
      if fraction.isEmpty && power.isEmpty then
        let n : Int := Text.numberOfDigits 10 (whole.map fun d => d.toNat - '0'.toNat)
        Value.int (if sign.isEmpty then n else -n)
      else Value.float ((Binary64.read? (.ofList chars)).getD .nan)
    .ok (value, c.skip chars.length)

def names : List (String × Value) :=
  [("null", .null), ("true", .bool true), ("false", .bool false), ("NaN", .float .nan),
    ("Infinity", .float (.infinite false)), ("-Infinity", .float (.infinite true))]

def readSimple (c : Cursor) : Except Fault (Value × Cursor) :=
  match names.find? fun (name, _) => (Text.after? name.toList c.rest).isSome with
  | some (name, value) => .ok (value, c.skip name.length)
  | none => readNumber c

mutual

/-- The value at the cursor; `bound` limits the number of steps. -/
def readValue (bound : Nat) (c : Cursor) : Except Fault (Value × Cursor) :=
  match bound with
  | 0 => c.fail .expectingValue
  | bound + 1 =>
    match c.rest with
    | '"' :: rest =>
      (readString c.position (c.position + 1) rest).map fun (cs, c) => (.text (.ofList cs), c)
    | '[' :: _ =>
      let c := (c.skip 1).skipBlanks
      match c.rest with
      | ']' :: _ => .ok (.list [], c.skip 1)
      | _ => (readItems bound c).map fun (items, c) => (.list items, c)
    | '{' :: _ =>
      let c := (c.skip 1).skipBlanks
      match c.rest with
      | '}' :: _ => .ok (.map [], c.skip 1)
      | _ => (readEntries bound c).map fun (entries, c) => (.map (Entries.ofList entries), c)
    | _ => readSimple c

def readItems (bound : Nat) (c : Cursor) : Except Fault (List Value × Cursor) :=
  match bound with
  | 0 => c.fail .expectingValue
  | bound + 1 => do
    let (item, c) ← readValue bound c
    let c := c.skipBlanks
    match c.rest with
    | ']' :: _ => return ([item], c.skip 1)
    | ',' :: _ =>
      let (items, c) ← readItems bound (c.skip 1).skipBlanks
      return (item :: items, c)
    | _ => c.fail .expectingComma

def readEntries (bound : Nat) (c : Cursor) : Except Fault (List (Value × Value) × Cursor) :=
  match bound with
  | 0 => c.fail .expectingName
  | bound + 1 =>
    match c.rest with
    | '"' :: rest => do
      let (key, c) ← readString c.position (c.position + 1) rest
      let c := c.skipBlanks
      match c.rest with
      | ':' :: _ =>
        let (value, c) ← readValue bound (c.skip 1).skipBlanks
        let c := c.skipBlanks
        let entry := (Value.text (.ofList key), value)
        match c.rest with
        | '}' :: _ => return ([entry], c.skip 1)
        | ',' :: _ =>
          let (entries, c) ← readEntries bound (c.skip 1).skipBlanks
          return (entry :: entries, c)
        | _ => c.fail .expectingComma
      | _ => c.fail .expectingColon
    | _ => c.fail .expectingName

end

/-- The value that a JSON text holds. Every step reads a character, so twice their number is bound
enough. -/
def read (text : String) : Except Fault Value :=
  let cs := text.toList
  if cs.head? == some '\uFEFF' then .error ⟨.byteOrderMark, 0⟩
  else do
    let (value, c) ← readValue (2 * cs.length + 2) (Cursor.skipBlanks ⟨0, cs⟩)
    let c := c.skipBlanks
    if c.rest.isEmpty then return value else c.fail .extraData

end PromptTree.Json
