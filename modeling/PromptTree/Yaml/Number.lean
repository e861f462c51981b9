import PromptTree.Calendar.Moment
import PromptTree.Decimal.Reading
import PromptTree.Yaml.Tag
import PromptTree.Yaml.Fault

/-!
Numbers, dates and times as they are written in documents.
-/

namespace PromptTree.Yaml

def digitIn? (base : Nat) (c : Char) : Option Nat :=
  let value := match Text.digitValue? c with
    | some d => some d
    | none =>
      let c := c.toLower
      if 'a' ≤ c ∧ c ≤ 'f' then some (c.toNat - 'a'.toNat + 10) else none
  value.filter (· < base)

/-- The letter that can stand after a zero before the digits of a number in a base. -/
def baseLetter? : Nat → Option Char
  | 2 => some 'b'
  | 8 => some 'o'
  | 16 => some 'x'
  | _ => none

def withoutMark (base : Nat) : List Char → List Char
  | '0' :: c :: rest => if baseLetter? base = some c.toLower then rest else '0' :: c :: rest
  | cs => cs

/-- A whole number with an optional sign and blanks around it. -/
def readWhole (base : Nat) (cs : List Char) : Except Fault Int := do
  let (negative, rest) := Binary64.takeSign (Text.trimWhile Text.isNumberBlank cs)
  let digits := withoutMark base rest
  match digits.mapM (digitIn? base) with
  | some (d :: ds) =>
    if base = 10 && ds.length ≥ Text.maxNumberDigits then throw (.tooManyDigits (ds.length + 1))
    let n : Int := Text.numberOfDigits base (d :: ds)
    return if negative then -n else n
  | _ => throw (.notWhole base (.ofList cs))

/-- The parts between colons as the digits of a number in base sixty. -/
def sexagesimal (parts : List Int) : Int :=
  parts.foldl (fun n d => n * 60 + d) 0

/-- A sign in front of a number, which cannot be missing altogether. -/
def takeSign (cs : List Char) : Except Fault (Bool × List Char) :=
  match cs with
  | [] => throw .emptyNumber
  | cs => return Binary64.takeSign cs

/-- A whole number: binary, octal, decimal, hexadecimal, or in base sixty. -/
def readInt (text : String) : Except Fault Int := do
  let (negative, cs) ← takeSign (text.toList.filter (· ≠ '_'))
  let n ← match cs with
    | ['0'] => pure 0
    | '0' :: 'b' :: digits => readWhole 2 digits
    | '0' :: 'x' :: digits => readWhole 16 digits
    | '0' :: _ => readWhole 8 cs
    | [] => throw .emptyNumber
    | _ =>
      if cs.contains ':' then sexagesimal <$> (Text.splitOn ':' cs).mapM (readWhole 10)
      else readWhole 10 cs
  return if negative then -n else n

def readDecimal (cs : List Char) : Except Fault Binary64 :=
  match Binary64.read? (.ofList cs) with
  | some x => return x
  | none => throw (.notDecimal (.ofList cs))

/-- The sum of the parts between colons, the last first, each times a power of sixty. -/
def sexagesimalSum (base : Int) (sum : Binary64) : List Binary64 → Binary64
  | [] => sum
  | x :: xs => sexagesimalSum (base * 60) (sum.add (x.mul (.ofInt base))) xs

def readFloat (text : String) : Except Fault Binary64 := do
  let (negative, cs) ← takeSign ((text.toList.filter (· ≠ '_')).map Char.toLower)
  let x ← match String.ofList cs with
    | ".inf" => pure (.infinite false)
    | ".nan" => return .nan
    | _ =>
      if cs.contains ':' then
        return signed negative (sexagesimalSum 1 (.zero false)
          (← (Text.splitOn ':' cs).mapM readDecimal).reverse)
      else readDecimal cs
  return signed negative x
where
  signed (negative : Bool) (x : Binary64) : Binary64 := if negative then x.neg else x

/-- A date, and if it is given a time of day and an offset. -/
def timeShape : Regex := Tag.shape
  (r"^([0-9][0-9][0-9][0-9])-([0-9][0-9]?)-([0-9][0-9]?)(?:(?:[Tt]|[ \t]+)([0-9][0-9]?):([0-9][0-9]):([0-9][0-9])" ++
    r"(?:\.([0-9]*))?(?:[ \t]*(Z|([-+])([0-9][0-9]?)(?::([0-9][0-9]))?))?)?$")

def dateOf (year month day : Nat) : Except Fault Calendar.Date :=
  match Calendar.Date.of? year month day with
  | some date => return date
  | none =>
    throw (.noSuchTime (
      if year = 0 || year > 9999 then .year year else if month = 0 || month > 12 then .month else .day))

def timeOf (hour minute second microsecond : Nat) : Except Fault Calendar.TimeOfDay :=
  match Calendar.TimeOfDay.of? hour minute second microsecond with
  | some time => return time
  | none => throw (.noSuchTime (if hour ≥ 24 then .hour else if minute ≥ 60 then .minute else .second))

def offsetOf (negative : Bool) (hours minutes : Nat) : Except Fault Calendar.Offset :=
  let n : Int := (hours * 60 + minutes) * 60000000
  let n := if negative then -n else n
  match Calendar.Offset.of? n with
  | some offset => return offset
  | none => throw (.offsetTooLarge n)

def readTime (text : String) : Except Fault Value := do
  match timeShape.way ⟨[], text.toList, 0, []⟩ some with
  | none => throw .notTime
  | some p =>
    let number := fun (group : Nat) => ((p.captures.lookup group).bind fun cs =>
      (cs.mapM Text.digitValue?).map (Text.numberOfDigits 10)).getD 0
    if (p.captures.lookup 4).isNone then return .date (← dateOf (number 1) (number 2) (number 3))
    let fraction := (p.captures.lookup 7).getD []
    let micros := (fraction.take 6 ++ List.replicate (6 - fraction.length) '0').mapM Text.digitValue?
    let offset ← match p.captures.lookup 8, p.captures.lookup 9 with
      | _, some sign => some <$> offsetOf (sign = ['-']) (number 10) (number 11)
      | some _, none => some <$> offsetOf false 0 0
      | none, none => pure none
    let date ← dateOf (number 1) (number 2) (number 3)
    let time ← timeOf (number 4) (number 5) (number 6) ((micros.map (Text.numberOfDigits 10)).getD 0)
    return .moment ⟨date, time, offset⟩

def readBool (text : String) : Except Fault Bool :=
  match Text.lower text with
  | "yes" | "true" | "on" => return true
  | "no" | "false" | "off" => return false
  | _ => throw .notTruthValue

end PromptTree.Yaml
