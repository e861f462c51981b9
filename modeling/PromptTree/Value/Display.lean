import PromptTree.Value.Basic
import PromptTree.Calendar.Iso
import PromptTree.Decimal.Notation
import PromptTree.Text.Quoted

/-!
Values as messages show them: `quoted` shows every text between quotes, `shown` a text on its own as
it is.
-/

namespace PromptTree.Value

def dateNumbers (d : Calendar.Date) : List Nat :=
  [d.year, d.month, d.day]

/-- The numbers of a moment from the year to the minute, and on to the last that is not zero. -/
def momentNumbers (m : Calendar.Moment) : List Nat :=
  dateNumbers m.date ++ [m.time.hour, m.time.minute] ++
    (if m.time.microsecond ≠ 0 then [m.time.second, m.time.microsecond]
      else if m.time.second ≠ 0 then [m.time.second] else [])

/-- An offset as it appears in a shown moment: whole days and the seconds after them. -/
def quotedOffset (offset : Calendar.Offset) : String :=
  if offset.microseconds == 0 then "datetime.timezone.utc"
  else
    let days := offset.microseconds / Calendar.dayMicroseconds
    let micros := offset.microseconds % Calendar.dayMicroseconds
    let parts := [("days", days), ("seconds", micros / 1000000), ("microseconds", micros % 1000000)]
    let shown := (parts.filter (·.2 ≠ 0)).map fun (name, n) => s!"{name}={n}"
    "datetime.timezone(datetime.timedelta(" ++ String.intercalate ", " shown ++ "))"

def quotedNumbers (name : String) (numbers : List Nat) (rest : List String) : String :=
  name ++ "(" ++ String.intercalate ", " (numbers.map toString ++ rest) ++ ")"

def bytesQuote (content : List UInt8) : Char :=
  if content.contains 0x27 && !content.contains 0x22 then '"' else '\''

def quotedByte (quote : Char) (b : UInt8) : List Char :=
  let c := Char.ofNat b.toNat
  if c = quote || c = '\\' then ['\\', c]
  else if c = '\t' then ['\\', 't']
  else if c = '\n' then ['\\', 'n']
  else if c = '\r' then ['\\', 'r']
  else if b < 0x20 || b ≥ 0x7F then '\\' :: 'x' :: Text.Quoted.hex 2 b.toNat
  else [c]

def quotedBytes (content : List UInt8) : String :=
  let quote := bytesQuote content
  .ofList ('b' :: quote :: content.flatMap (quotedByte quote) ++ [quote])

mutual

def quoted : Value → String
  | null => "None"
  | bool b => if b then "True" else "False"
  | int n => toString n
  | float x => x.text
  | text s => Text.quoted s
  | list items => "[" ++ String.intercalate ", " (quotedItems items) ++ "]"
  | map entries => "\x7b" ++ String.intercalate ", " (quotedEntries entries) ++ "\x7d"
  | date d => quotedNumbers "datetime.date" (dateNumbers d) []
  | moment m =>
    quotedNumbers "datetime.datetime" (momentNumbers m)
      (m.offset.map fun offset => "tzinfo=" ++ quotedOffset offset).toList
  | bytes content => quotedBytes content
  | set items =>
    if items.isEmpty then "set()" else "\x7b" ++ String.intercalate ", " (quotedItems items) ++ "\x7d"
termination_by structural v => v

def quotedItems : List Value → List String
  | [] => []
  | item :: items => item.quoted :: quotedItems items
termination_by structural items => items

def quotedEntries : List (Value × Value) → List String
  | [] => []
  | (k, v) :: entries => (k.quoted ++ ": " ++ v.quoted) :: quotedEntries entries
termination_by structural entries => entries

end

def shown : Value → String
  | text s => s
  | date d => d.text
  | moment m => Calendar.Iso.momentText " " m
  | v => v.quoted

/-- There is a text that shows the value, if it is a simple one: no text holds more digits of a whole
number than one that is read. -/
def isWritable : Value → Bool
  | int n => n.natAbs < Nat.pow 10 Text.maxNumberDigits
  | _ => true

end PromptTree.Value
