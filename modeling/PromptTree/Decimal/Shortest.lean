import PromptTree.Decimal.Binary64

/-!
The shortest decimal that reads back as a given number.
-/

namespace PromptTree.Binary64

/-- A decimal: `digits * 10 ^ exponent`. -/
structure Decimal where
  digits : Nat
  exponent : Int
deriving DecidableEq, Repr

/-- `num / den` divided by `10 ^ exponent`, as a numerator and a denominator. -/
def scaledTen (num den : Nat) (exponent : Int) : Nat × Nat :=
  if exponent < 0 then (num * Nat.pow 10 (-exponent).toNat, den)
  else (num, den * Nat.pow 10 exponent.toNat)

/-- The power of ten of the first digit of `num / den`, from a guess that is at most one too small. -/
def leadingPower (num den : Nat) : Int :=
  let guess : Int := ((Nat.log2 num : Int) - Nat.log2 den - 1) * 30103 / 100000
  let (n, d) := scaledTen num den (guess + 1)
  if n / d ≥ 1 then guess + 1 else guess

/-- The points of the decimal grid `10 ^ exponent` next to `num / den` that read back as `x`, the
nearer one first choice and the even one of two equally near. -/
def onGrid? (x : Binary64) (num den : Nat) (exponent : Int) : Option Decimal :=
  let (n, d) := scaledTen num den exponent
  let low := n / d
  let r := n % d
  let reads (k : Nat) : Bool := ofDecimal false k exponent == x
  let preferLow := 2 * r < d || (2 * r == d && low % 2 == 0)
  let order := if preferLow then [low, low + 1] else [low + 1, low]
  (order.find? fun k => k > 0 && reads k).map (⟨·, exponent⟩)

def Decimal.stripZeros (d : Decimal) : Decimal :=
  go d.digits d.exponent (Nat.log2 d.digits)
where
  go (digits : Nat) (exponent : Int) : Nat → Decimal
    | 0 => ⟨digits, exponent⟩
    | bound + 1 =>
      if digits % 10 == 0 && digits > 0 then go (digits / 10) (exponent + 1) bound
      else ⟨digits, exponent⟩

/-- A decimal with the fewest digits among those that read back as a positive finite number. -/
def shortest {mantissa : Nat} {exponent : Int} (canonical : IsCanonical mantissa exponent) : Decimal :=
  let x := Binary64.finite false mantissa exponent canonical
  let (num, den) := magnitude mantissa exponent
  let lead := leadingPower num den
  let found := (List.range 17).findSome? fun (k : Nat) => onGrid? x num den (lead - k)
  (found.getD ⟨num, 0⟩).stripZeros

end PromptTree.Binary64
