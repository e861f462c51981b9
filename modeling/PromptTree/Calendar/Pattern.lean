import PromptTree.Calendar.Iso
import PromptTree.Text.Letter

/-!
Moments written after a pattern, in which a percent sign, optional flags and a width, and a letter
stand for a part of the moment. A part that does not exist is copied as it is.
-/

namespace PromptTree.Calendar.Pattern

inductive Padding where
  | usual
  | spaces
  | zeros
  | none
deriving DecidableEq

/-- The flags and the width in front of the letter of a part. -/
structure Style where
  padding : Padding := .usual
  upper : Bool := false
  swap : Bool := false
  width : Nat := 0
  modifier : Option Char := Option.none

def dayNames : List String :=
  ["Sunday", "Monday", "Tuesday", "Wednesday", "Thursday", "Friday", "Saturday"]

def monthNames : List String :=
  ["January", "February", "March", "April", "May", "June", "July", "August", "September", "October",
    "November", "December"]

def Style.filler (style : Style) : Char :=
  if style.padding = .zeros then '0' else ' '

def Style.fit (style : Style) (text : List Char) : List Char :=
  List.replicate (style.width - text.length) style.filler ++ text

def Style.word (style : Style) (text : String) : List Char :=
  style.fit (if style.upper then (Text.upper text).toList else text.toList)

def Style.number (style : Style) (digits : Nat) (n : Int) : List Char :=
  let sign := if n < 0 then ['-'] else []
  let shown := Text.digitsOf 10 n.natAbs
  let room := max digits style.width - (sign.length + shown.length)
  match style.padding with
  | .none => style.fit (sign ++ shown)
  | .spaces => List.replicate room ' ' ++ sign ++ shown
  | .usual | .zeros => sign ++ List.replicate room '0' ++ shown

/-- A number that spaces, not zeros, precede if no flag says otherwise. -/
def Style.spacedNumber (style : Style) (digits : Nat) (n : Int) : List Char :=
  (if style.padding = .usual then { style with padding := .spaces } else style).number digits n

def sundayBased (m : Moment) : Nat :=
  (m.date.weekday + 1) % 7

def dialHour (m : Moment) : Nat :=
  if m.time.hour % 12 == 0 then 12 else m.time.hour % 12

/-- The week of the year, when weeks begin on the day that `weekday` counts as zero. -/
def weekOfYear (m : Moment) (weekday : Nat) : Nat :=
  (m.date.dayOfYear - 1 + 7 - weekday) / 7

/-- The offset as hours and minutes with a sign, and seconds where they are not zero. -/
def zoneNumber (mark : String) (offset : Offset) : String :=
  let micros := offset.microseconds.natAbs
  let seconds := micros / 1000000
  let sign := if offset.microseconds < 0 then "-" else "+"
  let base := sign ++ Text.paddedNat 2 (seconds / 3600) ++ mark ++ Text.paddedNat 2 (seconds / 60 % 60)
  let second := if micros % 60000000 == 0 then "" else mark ++ Text.paddedNat 2 (seconds % 60)
  let fraction := if micros % 1000000 == 0 then "" else "." ++ Text.paddedNat 6 (micros % 1000000)
  base ++ second ++ fraction

/-- The name of the offset: universal time, and the distance from it. -/
def zoneName (offset : Offset) : String :=
  if offset.microseconds == 0 then "UTC" else "UTC" ++ zoneNumber ":" offset

/-- Parts of which two-digit numbers are made, whatever the modifier. -/
def twoDigits? (m : Moment) : Char → Option Nat
  | 'd' => some m.date.day
  | 'H' => some m.time.hour
  | 'I' => some (dialHour m)
  | 'M' => some m.time.minute
  | 'm' => some m.date.month
  | 'S' => some m.time.second
  | 'U' => some (weekOfYear m (sundayBased m))
  | 'W' => some (weekOfYear m m.date.weekday)
  | 'V' => some m.date.isoWeek.2
  | 'g' => some (m.date.isoWeek.1 % 100)
  | _ => none

def composite? : Char → Option String
  | 'c' => some "%a %b %e %H:%M:%S %Y"
  | 'x' | 'D' => some "%m/%d/%y"
  | 'F' => some "%Y-%m-%d"
  | 'R' => some "%H:%M"
  | 'r' => some "%I:%M:%S %p"
  | 'X' | 'T' => some "%H:%M:%S"
  | _ => none

def halfDay (m : Moment) : String :=
  if m.time.hour < 12 then "AM" else "PM"

/-- A part of the moment that is no composite, if there is one of this letter and modifier. An offset and
its name, where a flag stands in front of the letter, are empty. -/
def simple? (m : Moment) (style : Style) (letter : Char) : Option (List Char) :=
  let plain := style.modifier.isNone
  let notEra := style.modifier != some 'E'
  let notOther := style.modifier != some 'O'
  let named := { style with upper := style.upper || style.swap }
  match twoDigits? m letter with
  | some n => if notEra then some (style.number 2 n) else none
  | none =>
    match letter with
    | '%' => some (style.fit ['%'])
    | 'n' => some (style.fit ['\n'])
    | 't' => some (style.fit ['\t'])
    | 'a' => if plain then (dayNames[sundayBased m]?).map fun s => named.word (s.take 3).toString else none
    | 'A' => if plain then (dayNames[sundayBased m]?).map named.word else none
    | 'b' | 'h' =>
      if notEra then (monthNames[m.date.month - 1]?).map fun s => named.word (s.take 3).toString else none
    | 'B' => if notEra then (monthNames[m.date.month - 1]?).map named.word else none
    | 'C' => if notOther then some (style.number 1 (m.date.year / 100)) else none
    | 'e' => if notEra then some (style.spacedNumber 2 m.date.day) else none
    | 'k' => if notEra then some (style.spacedNumber 2 m.time.hour) else none
    | 'l' => if notEra then some (style.spacedNumber 2 (dialHour m)) else none
    | 'j' => if notEra then some (style.number 3 m.date.dayOfYear) else none
    | 'P' => some (style.fit (Text.lower (halfDay m)).toList)
    | 'p' =>
      if style.swap then some (style.fit (Text.lower (halfDay m)).toList)
      else some (style.word (halfDay m))
    | 's' => some (style.number 1 m.unixSeconds)
    | 'u' => some (style.number 1 (m.date.weekday + 1))
    | 'w' => if notEra then some (style.number 1 (sundayBased m)) else none
    | 'G' => if notEra then some (style.number 1 m.date.isoWeek.1) else none
    | 'Y' => if notOther then some (style.number 1 m.date.year) else none
    | 'y' => some (style.number 2 (m.date.year % 100))
    | 'z' => some []
    | 'Z' => some (style.fit [])
    | _ => none

/-- The modifier in front of the letter of a part, and the rest. -/
def readModifier (style : Style) : List Char → Style × List Char
  | 'E' :: rest => ({ style with modifier := some 'E' }, rest)
  | 'O' :: rest => ({ style with modifier := some 'O' }, rest)
  | rest => (style, rest)

/-- A part of this width leaves no room for a text. -/
def maxWidth : Nat := 1000000

/-- The flags, the width and the modifier at the start of a part, and the rest. -/
def readStyle (style : Style) : List Char → Style × List Char
  | '_' :: rest => readStyle { style with padding := .spaces } rest
  | '-' :: rest => readStyle { style with padding := .none } rest
  | '0' :: rest => readStyle { style with padding := .zeros } rest
  | '^' :: rest => readStyle { style with upper := true } rest
  | '#' :: rest => readStyle { style with swap := true } rest
  | rest =>
    let digits := rest.takeWhile Char.isDigit
    let width := Text.numberOfDigits 10 (digits.map fun c => c.toNat - '0'.toNat)
    readModifier { style with width := min width maxWidth } (rest.drop digits.length)

theorem length_readModifier_le (style : Style) (cs : List Char) :
    (readModifier style cs).2.length ≤ cs.length := by
  unfold readModifier
  split <;> simp

theorem length_readStyle_le (style : Style) (cs : List Char) :
    (readStyle style cs).2.length ≤ cs.length := by
  fun_induction readStyle style cs with
  | case6 style rest =>
    exact Nat.le_trans (length_readModifier_le _ _) (by simp)
  | _ => simp only [List.length_cons]; omega

/-- Parts whose modifier makes them unknown although they are composites. -/
def isComposite (modifier : Option Char) (letter : Char) : Bool :=
  match letter with
  | 'c' | 'x' | 'X' => modifier != some 'O'
  | 'D' | 'F' => modifier.isNone
  | 'R' | 'r' | 'T' => true
  | _ => false

/-- The pattern with every part replaced. Composite parts are written by the pattern that they
abbreviate, which holds no composite itself: `depth` is 1 outside of a composite and 0 inside. -/
def expand (m : Moment) (depth : Nat) : List Char → List Char
  | [] => []
  | '%' :: rest =>
    match h : readStyle {} rest with
    | (style, []) => style.word (.ofList ('%' :: rest))
    | (style, letter :: after) =>
      have : after.length < rest.length := by
        have := length_readStyle_le {} rest
        simp only [h, List.length_cons] at this
        omega
      let copied := style.word (.ofList ('%' :: rest.take (rest.length - after.length)))
      let part :=
        match depth, composite? letter with
        | depth + 1, some parts =>
          if isComposite style.modifier letter then
            let body := expand m depth parts.toList
            style.fit (if style.upper then (Text.upper (.ofList body)).toList else body)
          else copied
        | _, _ => (simple? m style letter).getD copied
      part ++ expand m depth after
  | c :: rest => c :: expand m depth rest
termination_by cs => (depth, cs.length)

/-- The parts that are replaced before all others: the offset, its name and the microseconds, where
the letter follows the percent sign at once. What they hold is not looked at again. -/
def zoneParts (m : Moment) : List Char → List Char
  | '%' :: 'z' :: rest => ((m.offset.map (zoneNumber "")).getD "").toList ++ zoneParts m rest
  | '%' :: 'Z' :: rest => ((m.offset.map zoneName).getD "").toList ++ zoneParts m rest
  | '%' :: 'f' :: rest => (Text.paddedNat 6 m.time.microsecond).toList ++ zoneParts m rest
  | '%' :: c :: rest => '%' :: c :: zoneParts m rest
  | c :: rest => c :: zoneParts m rest
  | [] => []

end PromptTree.Calendar.Pattern

namespace PromptTree.Calendar

/-- The bytes that there is room for when a pattern of so many bytes is written out: a power of two, at least
256 for each byte. -/
def Pattern.room (bytes : Nat) : Nat :=
  max 1024 (Nat.nextPowerOfTwo (256 * bytes))

/-- The moment written after a pattern, or nothing if there is no room for it. The pattern ends at a null
character. -/
def Moment.format (m : Moment) (pattern : String) : String :=
  let parts := Pattern.zoneParts m (pattern.toList.takeWhile (· ≠ '\x00'))
  let shown := String.ofList (Pattern.expand m 1 parts)
  if shown.utf8ByteSize < Pattern.room (String.ofList parts).utf8ByteSize then shown else ""

end PromptTree.Calendar
