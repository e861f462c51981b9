import PromptTree.Calendar.Iso
import PromptTree.Text.Letter
import PromptTree.Text.Split
import PromptTree.Text.Word

/-!
Free phrases for a moment relative to another: keywords, seconds since 1970, moments in the
international notation, and sequences of offsets, which may follow a keyword.
-/

namespace PromptTree.Calendar

/-- Why a phrase names no moment. -/
inductive MomentError where
  /-- The phrase is not understood. -/
  | notUnderstood (expression : String)
  /-- A shift by months leads to a year outside 1 to 9999. -/
  | yearOutOfRange (year : Int)
  /-- A shift leaves the calendar, or is too large to be carried out at all. -/
  | shiftTooLarge
  /-- An amount has more digits than a number may have. -/
  | amountTooLong (digits : Nat)
deriving DecidableEq, Repr

def MomentError.message : MomentError → String
  | notUnderstood expression => s!"Invalid date expression: '{expression}'"
  | yearOutOfRange year => s!"year {year} is out of range"
  | shiftTooLarge => "date value out of range"
  | amountTooLong digits => Text.tooManyDigits digits

namespace Expression

inductive Unit where
  | second | minute | hour | day | week | fortnight | month | year
deriving DecidableEq, Repr

/-- The words for a unit, without the ending of the plural. -/
def units : List (String × Unit) :=
  [("sec", .second), ("second", .second), ("min", .minute), ("minute", .minute), ("hour", .hour),
    ("day", .day), ("week", .week), ("fortnight", .fortnight), ("month", .month), ("year", .year)]

/-- The unit that a word names, in the singular or the plural. -/
def unit? (word : String) : Option Unit :=
  match units.lookup word with
  | some unit => some unit
  | none => units.findSome? fun (name, unit) => if name ++ "s" == word then some unit else none

def Unit.seconds? : Unit → Option Nat
  | .second => some 1
  | .minute => some 60
  | .hour => some 3600
  | .day => some 86400
  | .week => some 604800
  | .fortnight => some 1209600
  | .month | .year => none

/-- One offset: its direction, the digits of its amount, and its unit. -/
structure Shift where
  backward : Bool
  digits : List Nat
  unit : Unit
deriving DecidableEq, Repr

/-- The bounds of a year that can be asked for at all. -/
def maxYear : Int := 2147483647

/-- Moves a moment by months, or says why there is no such moment. -/
def addMonths (m : Moment) (months : Int) : Except MomentError Moment :=
  match m.addMonths? months with
  | some moved => .ok moved
  | none =>
    let year := (m.monthIndex + months) / 12
    if -maxYear - 1 ≤ year && year ≤ maxYear then .error (.yearOutOfRange year) else .error .shiftTooLarge

/-- Moves a moment by seconds, or says why there is no such moment. -/
def addSeconds (m : Moment) (seconds : Int) : Except MomentError Moment :=
  match m.addSeconds? seconds with
  | some moved => .ok moved
  | none => .error .shiftTooLarge

/-- Moves a moment by one offset, in the opposite direction when `ago` is set. -/
def Shift.apply (shift : Shift) (ago : Bool) (m : Moment) : Except MomentError Moment :=
  if shift.digits.length > Text.maxNumberDigits then .error (.amountTooLong shift.digits.length)
  else
    let amount : Int := Text.numberOfDigits 10 shift.digits
    let amount := if shift.backward != ago then -amount else amount
    match shift.unit with
    | .month => addMonths m amount
    | .year => addMonths m (amount * 12)
    | unit => addSeconds m (amount * (unit.seconds?.getD 0 : Nat))

def applyAll (shifts : List Shift) (ago : Bool) (m : Moment) : Except MomentError Moment :=
  shifts.foldlM (fun m shift => shift.apply ago m) m

/-- The direction that a sign gives, and what stands behind the sign. -/
def direction : List Char → Bool × List Char
  | '-' :: rest => (true, rest)
  | '+' :: rest => (false, rest)
  | rest => (false, rest)

/-- What stands behind a sign: blanks, an amount, blanks and a unit, as far as a word goes on; and the
rest. -/
def measure? (backward : Bool) (cs : List Char) : Option (Shift × List Char) := do
  let cs := cs.dropWhile Text.isBlank
  let digits := (cs.takeWhile Text.isDigit).filterMap Text.digitValue?
  if digits.isEmpty then failure
  let cs := (cs.dropWhile Text.isDigit).dropWhile Text.isBlank
  let unit ← unit? (.ofList (cs.takeWhile Text.isWord))
  return (⟨backward, digits, unit⟩, cs.dropWhile Text.isWord)

/-- The offset that the characters begin with, and the rest. -/
def shift? (cs : List Char) : Option (Shift × List Char) :=
  measure? (direction cs).1 (direction cs).2

/-- The text consists of offsets, at least one and at most `bound` of them, with blanks around them. -/
def areShifts : (bound : Nat) → List Char → Bool
  | 0, _ => false
  | bound + 1, cs =>
    match shift? (cs.dropWhile Text.isBlank) with
    | some (_, rest) => rest.all Text.isBlank || areShifts bound rest
    | none => false

/-- The offsets that are found in a text from left to right, in at most `bound` steps. A character where
none begins is passed over. -/
def search : (bound : Nat) → List Char → List Shift
  | 0, _ => []
  | _, [] => []
  | bound + 1, c :: cs =>
    match shift? (c :: cs) with
    | some (shift, rest) => shift :: search bound rest
    | none => search bound cs

/-- The offsets of a text that consists of them: it is looked at as a whole, and then searched. -/
def shifts? (cs : List Char) : Option (List Shift) :=
  if areShifts cs.length cs then some (search cs.length cs) else none

def keyword? (now : Moment) : String → Option (Except MomentError Moment)
  | "now" => some (.ok now)
  | "today" | "midnight" => some (.ok now.midnight)
  | "noon" => some (.ok now.noon)
  | "tomorrow" => some (addSeconds now.midnight 86400)
  | "yesterday" => some (addSeconds now.midnight (-86400))
  | _ => none

def beforeAgo? (cs : List Char) : Option (List Char) :=
  (Text.after? [' ', 'a', 'g', 'o'].reverse cs.reverse).map List.reverse

/-- A sequence of offsets, which a keyword and a space may precede, and the word `ago` follow. -/
def relative (expression : String) (now : Moment) (phrase : List Char) :
    Except MomentError Moment := do
  let (head, tail) := Text.cutAt ' ' phrase
  let (base, phrase) ←
    match keyword? now (.ofList head), tail with
    | some (.error e), _ => .error e
    | some (.ok moment), some (c :: rest) => pure (moment, Text.trimWhile Text.isBlank (c :: rest))
    | _, _ => pure (now, phrase)
  let (ago, phrase) :=
    match beforeAgo? phrase with
    | some rest => (true, rest)
    | none => (false, phrase)
  match shifts? phrase with
  | some shifts => applyAll shifts ago base
  | none => .error (.notUnderstood expression)

end Expression

open Expression in
/-- The moment that a phrase names, seen from `now`. An absent or empty phrase names `now` itself. -/
def resolveMoment (expression : Option String) (now : Moment) : Except MomentError Moment :=
  let given := expression.getD ""
  let phrase := Text.lower (Text.trim (if given.isEmpty then "now" else given))
  if phrase.isEmpty then .ok now
  else match keyword? now phrase with
    | some outcome => outcome
    | none =>
      match phrase.toList with
      | '@' :: rest =>
        match (Text.readInt? (.ofList rest)).bind (Moment.ofUnixSeconds? · now.offset) with
        | some moment => .ok moment
        | none => .error (.notUnderstood given)
      | phrase =>
        -- A date in the international notation is read from the phrase as it was given, with its capitals.
        match Moment.read? (Text.trim given) with
        | some moment => .ok moment
        | none => relative given now phrase

end PromptTree.Calendar
