import PromptTree.Calendar.Moment
import PromptTree.Text.Split

/-!
Moments in the international notation: written with a `T` between date and time, read with any
separator, in the extended and the basic form, by calendar day and by week.
-/

namespace PromptTree.Calendar.Iso

/-- A number of exactly `count` ASCII digits, and the rest. -/
def digits? : (count : Nat) → List Char → Option (Nat × List Char)
  | count, cs =>
    let ds := cs.take count
    if ds.length == count && ds.all Char.isDigit then
      some (Text.numberOfDigits 10 (ds.map fun c => c.toNat - '0'.toNat), cs.drop count)
    else none

/-! ### Dates -/

/-- The number of characters that the date takes at the start of a date and time. A week without a day
can be told from one with a day only by the number of digits that follow. -/
def dateLength (cs : List Char) : Nat :=
  if cs.length == 7 then 7
  else if cs[4]? == some '-' then
    if cs[5]? == some 'W' then
      if cs.length > 8 && cs[8]? == some '-' then
        if cs.length > 10 && (cs[10]?.any Char.isDigit) then 8 else 10
      else 8
    else 10
  else if cs[4]? == some 'W' then
    let stop := 7 + ((cs.drop 7).takeWhile Char.isDigit).length
    if stop < 9 then stop
    else if stop % 2 == 0 then 7 else 8
  else 8

/-- The day of a week: the number of the week and, unless the date ends there, of the day. -/
def week? (year : Nat) (hyphens : Bool) (cs : List Char) : Option Date := do
  let (week, rest) ← digits? 2 cs
  match rest with
  | [] => Date.ofIsoWeek? year week 1
  | rest =>
    let rest ← if hyphens then Text.after? ['-'] rest else some rest
    let (day, _) ← digits? 1 rest
    Date.ofIsoWeek? year week day

def date? (cs : List Char) : Option Date := do
  let (year, rest) ← digits? 4 cs
  let (hyphens, rest) := match rest with
    | '-' :: rest => (true, rest)
    | rest => (false, rest)
  match rest with
  | 'W' :: rest => week? year hyphens rest
  | rest =>
    let (month, rest) ← digits? 2 rest
    let rest ← if hyphens then Text.after? ['-'] rest else some rest
    let (day, _) ← digits? 2 rest
    Date.of? year month day

/-! ### Times -/

/-- A time as it is written, and whether something was left over behind it. -/
structure Clock where
  hour : Nat := 0
  minute : Nat := 0
  second : Nat := 0
  microsecond : Nat := 0
  leftOver : Bool := false

/-- The fraction of a second, cut after six digits; of less than six characters all have to be
digits. -/
def fraction? (clock : Clock) (cs : List Char) : Option Clock := do
  let count := min cs.length 6
  let (value, rest) ← digits? count cs
  let rest := rest.dropWhile Char.isDigit
  return { clock with microsecond := value * Nat.pow 10 (6 - count), leftOver := !rest.isEmpty }

/-- Where the time goes on after one of its three numbers. -/
inductive Next where
  | done (leftOver : Bool)
  | number (rest : List Char)
  | fraction (rest : List Char)
  | broken

/-- What comes after a number, when the numbers are separated by colons or not at all. -/
def next (colons : Bool) : List Char → Next
  | [] => .done false
  | [_] => .done true
  | c :: rest =>
    if colons && c == ':' then .number rest
    else if c == '.' || c == ',' then .fraction rest
    else if colons then .broken
    else .number (c :: rest)

/-- Hour, minute, second and fraction, each of which may be the last. -/
def clock? (cs : List Char) : Option Clock := do
  let (hour, rest) ← digits? 2 cs
  let colons := rest.head? == some ':'
  match next colons rest with
  | .broken => none
  | .done leftOver => return { hour, leftOver }
  | .fraction rest => fraction? { hour } rest
  | .number rest =>
    let (minute, rest) ← digits? 2 rest
    match next colons rest with
    | .broken => none
    | .done leftOver => return { hour, minute, leftOver }
    | .fraction rest => fraction? { hour, minute } rest
    | .number rest =>
      let (second, rest) ← digits? 2 rest
      match next colons rest with
      | .broken => none
      | .done leftOver => return { hour, minute, second, leftOver }
      | .fraction rest | .number rest => fraction? { hour, minute, second } rest

def isZoneMark (c : Char) : Bool :=
  c == '+' || c == '-' || c == 'Z'

/-- The offset behind its sign. Without whole seconds it is zero. -/
def offset? (sign : Int) (cs : List Char) : Option Offset := do
  let c ← clock? cs
  if c.leftOver then failure
  let seconds := c.hour * 3600 + c.minute * 60 + c.second
  if seconds == 0 then Offset.of? 0
  else Offset.of? (sign * (seconds * 1000000 + c.microsecond))

def time? (cs : List Char) : Option (TimeOfDay × Option Offset) := do
  let c ← clock? (cs.takeWhile (!isZoneMark ·))
  let time ← TimeOfDay.of? c.hour c.minute c.second c.microsecond
  match cs.dropWhile (!isZoneMark ·) with
  | [] => if c.leftOver then none else return (time, none)
  | ['Z'] => return (time, some (← Offset.of? 0))
  | '+' :: rest => return (time, some (← offset? 1 rest))
  | '-' :: rest => return (time, some (← offset? (-1) rest))
  | _ => none

/-- A date, or a date and a time with any one character between them. -/
def moment? (cs : List Char) : Option Moment := do
  let length := dateLength cs
  let date ← date? (cs.take length)
  match cs.drop length with
  | [] => return ⟨date, .midnight, none⟩
  | _ :: rest =>
    let (time, offset) ← time? rest
    return ⟨date, time, offset⟩

/-! ### Writing -/

/-- The hours and minutes of an offset, with its seconds and their fraction where they are not
zero. -/
def offsetText (offset : Offset) : String :=
  let micros := offset.microseconds.natAbs
  let sign := if offset.microseconds < 0 then "-" else "+"
  let seconds := micros / 1000000
  let base := s!"{sign}{Text.paddedNat 2 (seconds / 3600)}:{Text.paddedNat 2 (seconds / 60 % 60)}"
  let second := if micros % 60000000 == 0 then "" else s!":{Text.paddedNat 2 (seconds % 60)}"
  let fraction := if micros % 1000000 == 0 then "" else s!".{Text.paddedNat 6 (micros % 1000000)}"
  base ++ second ++ fraction

/-- Hour, minute and second, with the fraction where it is not zero. -/
def timeText (t : TimeOfDay) : String :=
  let base := s!"{Text.paddedNat 2 t.hour}:{Text.paddedNat 2 t.minute}:{Text.paddedNat 2 t.second}"
  if t.microsecond == 0 then base else s!"{base}.{Text.paddedNat 6 t.microsecond}"

def momentText (mark : String) (m : Moment) : String :=
  m.date.text ++ mark ++ timeText m.time ++ (m.offset.map offsetText).getD ""

end PromptTree.Calendar.Iso

namespace PromptTree.Calendar

/-- The moment that a text in the international notation names. -/
def Moment.read? (s : String) : Option Moment :=
  Iso.moment? s.toList

end PromptTree.Calendar
