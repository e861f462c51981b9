import PromptTree.Decimal.Shortest
import PromptTree.Text.Digit

/-!
Numbers as text. The notation is a record of choices; the digits are the fewest that read back.
-/

namespace PromptTree.Binary64

structure Notation where
  /-- The first digit stands for a power of ten from here on … -/
  positionalFrom : Int
  /-- … and below this, when the number is written without a power of ten. -/
  positionalBelow : Int
  /-- The least number of digits of a power of ten. -/
  powerDigits : Nat
  notANumber : String
  infinity : String

def plain : Notation :=
  { positionalFrom := -4, positionalBelow := 16, powerDigits := 2, notANumber := "nan",
    infinity := "inf" }

/-- The digits with a point, where `power` is the power of ten of the first digit. -/
def positional (digits : List Char) (power : Int) : List Char :=
  if power < 0 then
    '0' :: '.' :: List.replicate (-power - 1).toNat '0' ++ digits
  else
    let count := power.toNat + 1
    let whole := digits.take count ++ List.replicate (count - digits.length) '0'
    let rest := digits.drop count
    whole ++ '.' :: (if rest.isEmpty then ['0'] else rest)

/-- The digits with a point after the first and a power of ten. -/
def scientific (powerDigits : Nat) (digits : List Char) (power : Int) : List Char :=
  let fraction := match digits.drop 1 with
    | [] => []
    | rest => '.' :: rest
  digits.take 1 ++ fraction ++ 'e' :: (if power < 0 then '-' else '+') ::
    (Text.paddedNat powerDigits power.natAbs).toList

def render (style : Notation) : Binary64 → String
  | .nan => style.notANumber
  | .infinite negative => (if negative then "-" else "") ++ style.infinity
  | .finite negative m _ canonical =>
    let sign := if negative then "-" else ""
    if m == 0 then sign ++ "0.0"
    else
      let d := shortest canonical
      let digits := Text.digitsOf 10 d.digits
      let power : Int := d.exponent + digits.length - 1
      let body :=
        if style.positionalFrom ≤ power && power < style.positionalBelow then positional digits power
        else scientific style.powerDigits digits power
      sign ++ .ofList body

def text (x : Binary64) : String :=
  x.render plain

end PromptTree.Binary64
