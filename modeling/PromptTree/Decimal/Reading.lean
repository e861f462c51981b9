import PromptTree.Decimal.Binary64
import PromptTree.Text.Digit
import PromptTree.Text.Letter
import PromptTree.Text.Split

/-!
Numbers read from text: decimals with an optional fraction and power of ten, infinities, and what is
not a number.
-/

namespace PromptTree.Binary64

def takeSign : List Char → Bool × List Char
  | '-' :: rest => (true, rest)
  | '+' :: rest => (false, rest)
  | rest => (false, rest)

/-- A power of ten of more digits than these decides the number by itself. -/
def maxPowerDigits : Nat := 6

def hugePower : Int := 1000000

/-- A power of ten, as digits; a hopelessly large one is cut to one that is large enough. -/
def powerOf (negative : Bool) (digits : List Nat) : Int :=
  let significant := digits.dropWhile (· == 0)
  let n : Int := if significant.length > maxPowerDigits then hugePower
    else Text.numberOfDigits 10 significant
  if negative then -n else n

/-- The number of a sign, the digits before and after the point, and a power of ten. -/
def ofParts (negative : Bool) (whole fraction : List Nat) (power : Int) : Binary64 :=
  let digits := whole ++ fraction
  let n := Text.numberOfDigits 10 digits
  let shift := power - fraction.length
  if n == 0 then zero negative
  else if shift + digits.length < -400 then zero negative
  else if shift + (digits.dropWhile (· == 0)).length > 400 then .infinite negative
  else ofDecimal negative n shift

def optionalDigits? (cs : List Char) : Option (List Nat) :=
  if cs.isEmpty then some [] else Text.groupedDigits? cs

/-- A decimal without its sign: digits with an optional point, and an optional power of ten. -/
def readDecimal? (negative : Bool) (cs : List Char) : Option Binary64 := do
  let (significand, power) := Text.cutAt 'e' (cs.map fun c => if c = 'E' then 'e' else c)
  let (whole, fraction) := Text.cutAt '.' significand
  let whole ← optionalDigits? whole
  let fraction ← optionalDigits? (fraction.getD [])
  if whole.isEmpty && fraction.isEmpty then failure
  let power ← match power with
    | none => some 0
    | some cs =>
      let (negative, cs) := takeSign cs
      (Text.groupedDigits? cs).map (powerOf negative)
  return ofParts negative whole fraction power

/-- A number: blanks around it, an optional sign, and a decimal or one of the words `inf`, `infinity`
and `nan` in any case. -/
def read? (s : String) : Option Binary64 :=
  let (negative, cs) := takeSign (Text.trimWhile Text.isNumberBlank s.toList)
  match String.ofList (cs.map Char.toLower) with
  | "inf" | "infinity" => some (.infinite negative)
  | "nan" => some .nan
  | _ => readDecimal? negative cs

end PromptTree.Binary64
