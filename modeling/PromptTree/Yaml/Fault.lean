import PromptTree.Text.Digit
import PromptTree.Value.Display

/-!
Why a text does not write data.
-/

namespace PromptTree.Yaml

inductive TimePart where
  | year (n : Nat)
  | month
  | day
  | hour
  | minute
  | second
deriving DecidableEq, Repr

/-- Why a text does not write data. -/
inductive Fault where
  /-- The text is not in the language, or asks for data of an unknown kind. -/
  | malformed
  /-- A code point that no character has. -/
  | codePoint (n : Nat)
  | notWhole (base : Nat) (text : String)
  | tooManyDigits (digits : Nat)
  | notDecimal (text : String)
  | noSuchTime (part : TimePart)
  /-- An offset of a day or more. -/
  | offsetTooLarge (microseconds : Int)
  /-- A number that begins with nothing. -/
  | emptyNumber
  | notTruthValue
  | notTime
  /-- A node that holds itself. -/
  | endless
deriving DecidableEq, Repr

def shownInterval (microseconds : Int) : String :=
  let days := microseconds / Calendar.dayMicroseconds
  let rest := microseconds % Calendar.dayMicroseconds
  let parts := [("days", days), ("seconds", rest / 1000000), ("microseconds", rest % 1000000)]
  let shown := (parts.filter (·.2 ≠ 0)).map fun (name, n) => s!"{name}={n}"
  "datetime.timedelta(" ++ (if shown.isEmpty then "0" else String.intercalate ", " shown) ++ ")"

/-- The wording of a fault that lies in a value, if it does. -/
def Fault.valueMessage? : Fault → Option String
  | codePoint n => if n < 2147483648 then some "chr() arg not in range(0x110000)" else none
  | notWhole base text =>
    let shown := String.ofList ((Text.quoted text).toList.take 200)
    some s!"invalid literal for int() with base {base}: {shown}"
  | tooManyDigits digits => some (Text.tooManyDigits digits)
  | notDecimal text => some s!"could not convert string to float: {Text.quoted text}"
  | noSuchTime (.year n) => some s!"year {n} is out of range"
  | noSuchTime .month => some "month must be in 1..12"
  | noSuchTime .day => some "day is out of range for month"
  | noSuchTime .hour => some "hour must be in 0..23"
  | noSuchTime .minute => some "minute must be in 0..59"
  | noSuchTime .second => some "second must be in 0..59"
  | offsetTooLarge microseconds =>
    some ("offset must be a timedelta strictly between -timedelta(hours=24) and " ++
      s!"timedelta(hours=24), not {shownInterval microseconds}.")
  | malformed | emptyNumber | notTruthValue | notTime | endless => none

end PromptTree.Yaml
