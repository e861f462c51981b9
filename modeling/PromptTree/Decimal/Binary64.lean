/-!
Binary floating point numbers of 64 bits, as exact values: a sign, a whole number of 53 bits and a
power of two. Every operation is the exact one, followed by rounding to the nearest number, of two
equally near ones to the even.
-/

namespace PromptTree

namespace Binary64

def minExponent : Int := -1074

def maxExponent : Int := 971

/-- The mantissa has 53 bits at most, and fewer only with the least exponent. -/
structure IsCanonical (mantissa : Nat) (exponent : Int) : Prop where
  short : mantissa < Nat.pow 2 53
  long : Nat.pow 2 52 ≤ mantissa ∨ exponent = minExponent
  least : minExponent ≤ exponent
  greatest : exponent ≤ maxExponent

end Binary64

/-- A number of the format. A finite one is `mantissa * 2 ^ exponent`; no other mantissa and exponent
make the same number. -/
inductive Binary64 where
  | finite (negative : Bool) (mantissa : Nat) (exponent : Int)
    (canonical : Binary64.IsCanonical mantissa exponent)
  | infinite (negative : Bool)
  | nan
deriving DecidableEq, Repr, Inhabited

namespace Binary64

theorem isCanonical_zero : IsCanonical 0 minExponent where
  short := by decide
  long := .inr rfl
  least := by decide
  greatest := by decide

def zero (negative : Bool) : Binary64 :=
  .finite negative 0 minExponent isCanonical_zero

/-- The whole number nearest to a quotient; of two equally near ones the even. -/
def divRound (num den : Nat) : Nat :=
  let q := num / den
  let r := num % den
  if 2 * r < den then q
  else if 2 * r > den then q + 1
  else if q % 2 == 0 then q else q + 1

theorem divRound_bounds (num den : Nat) :
    num / den ≤ divRound num den ∧ divRound num den ≤ num / den + 1 := by
  unfold divRound
  dsimp only
  split
  · omega
  · split
    · omega
    · split <;> omega

/-- The quotient `num / (den * 2 ^ e)` as a numerator and a denominator. -/
def scaled (num den : Nat) (e : Int) : Nat × Nat :=
  if e < 0 then (num * Nat.pow 2 (-e).toNat, den) else (num, den * Nat.pow 2 e.toNat)

def wholeScaled (num den : Nat) (e : Int) : Nat :=
  (scaled num den e).1 / (scaled num den e).2

/-- A comparison with a scaled quotient, with both sides made whole. -/
theorem le_wholeScaled_iff {den i j : Nat} {e : Int} (num : Nat) (hasDen : 0 < den)
    (scale : (i : Int) - j = e) (k : Nat) :
    k ≤ wholeScaled num den e ↔ k * den * Nat.pow 2 i ≤ num * Nat.pow 2 j := by
  unfold wholeScaled scaled
  simp only [Nat.pow_eq]
  split
  · next negative =>
    have exponent : j = (-e).toNat + i := by omega
    rw [Nat.le_div_iff_mul_le hasDen, exponent, Nat.pow_add, ← Nat.mul_assoc]
    exact (Nat.mul_le_mul_right_iff (Nat.two_pow_pos i)).symm
  · next nonnegative =>
    have exponent : i = e.toNat + j := by omega
    rw [Nat.le_div_iff_mul_le (Nat.mul_pos hasDen (Nat.two_pow_pos _)), exponent, Nat.pow_add,
      ← Nat.mul_assoc, ← Nat.mul_assoc]
    exact (Nat.mul_le_mul_right_iff (Nat.two_pow_pos j)).symm

variable {num den : Nat}

/-- A greater power of two makes the quotient smaller. -/
theorem wholeScaled_anti {e f : Int} (hasDen : 0 < den) (le : e ≤ f) :
    wholeScaled num den f ≤ wholeScaled num den e := by
  have scale : (((f - e).toNat + e.toNat : Nat) : Int) - ((-e).toNat : Nat) = f := by omega
  have kept := (le_wholeScaled_iff num hasDen scale _).mp (Nat.le_refl _)
  rw [le_wholeScaled_iff (i := e.toNat) (j := (-e).toNat) num hasDen (by omega)]
  refine Nat.le_trans ?_ kept
  exact Nat.mul_le_mul_left _ (Nat.pow_le_pow_right (by decide) (Nat.le_add_left _ _))

theorem wholeScaled_pred_lt {e : Int} {k : Nat} (hasDen : 0 < den)
    (lt : wholeScaled num den e < k) : wholeScaled num den (e - 1) < k * 2 := by
  rw [← Nat.not_le] at lt ⊢
  rw [le_wholeScaled_iff (i := e.toNat) (j := (-e).toNat) num hasDen (by omega)] at lt
  rw [le_wholeScaled_iff (i := e.toNat) (j := (-e).toNat + 1) num hasDen (by omega)]
  intro doubled
  apply lt
  simp only [Nat.pow_eq] at doubled ⊢
  rw [Nat.mul_right_comm k, Nat.mul_right_comm _ 2, Nat.pow_succ, ← Nat.mul_assoc num] at doubled
  exact Nat.le_of_mul_le_mul_right doubled (by decide)

/-- The exponent of a mantissa of 53 bits, or one above it. -/
def guessExponent (num den : Nat) : Int :=
  (Nat.log2 num : Int) - Nat.log2 den - 52

theorem wholeScaled_guess_lt (hasDen : den ≠ 0) :
    wholeScaled num den (guessExponent num den) < Nat.pow 2 53 := by
  have denLow := Nat.log2_self_le hasDen
  rw [← Nat.not_le, le_wholeScaled_iff (i := num.log2) (j := den.log2 + 52) num
    (Nat.pos_of_ne_zero hasDen) (by unfold guessExponent; omega), Nat.not_le]
  calc num * 2 ^ (den.log2 + 52)
    _ < 2 ^ (num.log2 + 1) * 2 ^ (den.log2 + 52) :=
      Nat.mul_lt_mul_of_pos_right Nat.lt_log2_self (Nat.two_pow_pos _)
    _ = 2 ^ 53 * 2 ^ den.log2 * 2 ^ num.log2 := by
      rw [← Nat.pow_add, ← Nat.pow_add, ← Nat.pow_add]
      congr 1
      omega
    _ ≤ 2 ^ 53 * den * 2 ^ num.log2 := Nat.mul_le_mul_right _ (Nat.mul_le_mul_left _ denLow)

theorem le_wholeScaled_guess_pred (hasNum : num ≠ 0) (hasDen : den ≠ 0) :
    Nat.pow 2 52 ≤ wholeScaled num den (guessExponent num den - 1) := by
  have denHigh : den ≤ 2 ^ (den.log2 + 1) := Nat.le_of_lt Nat.lt_log2_self
  rw [le_wholeScaled_iff (i := num.log2) (j := den.log2 + 53) num (Nat.pos_of_ne_zero hasDen)
    (by unfold guessExponent; omega)]
  calc 2 ^ 52 * den * 2 ^ num.log2
    _ ≤ 2 ^ 52 * 2 ^ (den.log2 + 1) * num :=
      Nat.mul_le_mul (Nat.mul_le_mul_left _ denHigh) (Nat.log2_self_le hasNum)
    _ = num * 2 ^ (den.log2 + 53) := by
      rw [Nat.mul_comm num, ← Nat.pow_add]
      congr 2
      omega

/-- The exponent with which the quotient has a mantissa of 53 bits. -/
def fullExponent (num den : Nat) : Int :=
  let guess := guessExponent num den
  if wholeScaled num den guess < Nat.pow 2 52 then guess - 1 else guess

theorem wholeScaled_fullExponent (hasNum : num ≠ 0) (hasDen : den ≠ 0) :
    Nat.pow 2 52 ≤ wholeScaled num den (fullExponent num den) ∧
      wholeScaled num den (fullExponent num den) < Nat.pow 2 53 := by
  unfold fullExponent
  dsimp only
  split
  · next small =>
    exact ⟨le_wholeScaled_guess_pred hasNum hasDen,
      wholeScaled_pred_lt (Nat.pos_of_ne_zero hasDen) small⟩
  · next large => exact ⟨Nat.not_lt.mp large, wholeScaled_guess_lt hasDen⟩

/-- The mantissa and the exponent of the number nearest to a quotient, however great the exponent. -/
def nearest (num den : Nat) : Nat × Int :=
  let e := max (fullExponent num den) minExponent
  let (n, d) := scaled num den e
  let m := divRound n d
  if m = Nat.pow 2 53 then (Nat.pow 2 52, e + 1) else (m, e)

theorem isCanonical_nearest (hasNum : num ≠ 0) (hasDen : den ≠ 0)
    (inRange : (nearest num den).2 ≤ maxExponent) :
    IsCanonical (nearest num den).1 (nearest num den).2 := by
  obtain ⟨long, short⟩ := wholeScaled_fullExponent hasNum hasDen
  have shorter := @wholeScaled_anti num _ _ _ (Nat.pos_of_ne_zero hasDen)
    (Int.le_max_left (fullExponent num den) minExponent)
  have rounded := divRound_bounds (scaled num den (max (fullExponent num den) minExponent)).1
    (scaled num den (max (fullExponent num den) minExponent)).2
  have least := Int.le_max_right (fullExponent num den) minExponent
  unfold nearest at inRange ⊢
  dsimp only at inRange ⊢
  change wholeScaled num den _ ≤ _ ∧ _ ≤ wholeScaled num den _ + 1 at rounded
  split
  · next carries =>
    rw [if_pos carries] at inRange
    have short : Nat.pow 2 52 < Nat.pow 2 53 := by decide
    exact ⟨short, .inl (Nat.le_refl _), Int.le_add_one least, inRange⟩
  · next stays =>
    rw [if_neg stays] at inRange
    refine ⟨?short, ?long, least, inRange⟩
    case short =>
      have upTo := Nat.le_trans rounded.2 (Nat.succ_le_of_lt (Nat.lt_of_le_of_lt shorter short))
      exact Nat.lt_of_le_of_ne upTo stays
    case long =>
      rcases Int.le_total minExponent (fullExponent num den) with normal | subnormal
      · rw [Int.max_eq_left normal] at rounded ⊢
        exact .inl (Nat.le_trans long rounded.1)
      · exact .inr (Int.max_eq_right subnormal)

/-- The number nearest to the quotient of two natural numbers, the second not zero. -/
def ofRatio (negative : Bool) (num den : Nat) : Binary64 :=
  let near := nearest num den
  if proper : num ≠ 0 ∧ den ≠ 0 then
    if inRange : near.2 ≤ maxExponent then
      .finite negative near.1 near.2 (isCanonical_nearest proper.1 proper.2 inRange)
    else .infinite negative
  else zero negative

def ofDecimal (negative : Bool) (digits : Nat) (exponent : Int) : Binary64 :=
  if exponent < 0 then ofRatio negative digits (Nat.pow 10 (-exponent).toNat)
  else ofRatio negative (digits * Nat.pow 10 exponent.toNat) 1

def ofInt (n : Int) : Binary64 :=
  ofRatio (n < 0) n.natAbs 1

def magnitude (mantissa : Nat) (exponent : Int) : Nat × Nat :=
  if exponent < 0 then (mantissa, Nat.pow 2 (-exponent).toNat)
  else (mantissa * Nat.pow 2 exponent.toNat, 1)

def toRatio? : Binary64 → Option (Int × Nat)
  | .finite negative m e _ =>
    let (n, d) := magnitude m e
    some (if negative then -(n : Int) else n, d)
  | _ => none

def truncate? (x : Binary64) : Option Int :=
  x.toRatio?.map fun (n, d) => Int.tdiv n d

def isZero : Binary64 → Bool
  | .finite _ 0 _ _ => true
  | _ => false

def neg : Binary64 → Binary64
  | .finite negative m e canonical => .finite (!negative) m e canonical
  | .infinite negative => .infinite (!negative)
  | .nan => .nan

/-- The sum. Opposite infinities have none; a sum of zeros is negative only if both are. -/
def add : Binary64 → Binary64 → Binary64
  | .nan, _ | _, .nan => .nan
  | .infinite a, .infinite b => if a == b then .infinite a else .nan
  | .infinite a, _ => .infinite a
  | _, .infinite b => .infinite b
  | .finite a m e _, .finite b m' e' _ =>
    let (n, d) := magnitude m e
    let (n', d') := magnitude m' e'
    let sum := (if a then -1 else 1) * ((n * d' : Nat) : Int) +
      (if b then -1 else 1) * ((n' * d : Nat) : Int)
    if sum == 0 then zero (a && b) else ofRatio (sum < 0) sum.natAbs (d * d')

def mul : Binary64 → Binary64 → Binary64
  | .nan, _ | _, .nan => .nan
  | .infinite a, x => if x.isZero then .nan else match x with
    | .finite b _ _ _ | .infinite b => .infinite (a != b)
    | .nan => .nan
  | .finite a m _ _, .infinite b => if m == 0 then .nan else .infinite (a != b)
  | .finite a m e _, .finite b m' e' _ =>
    let (n, d) := magnitude m e
    let (n', d') := magnitude m' e'
    ofRatio (a != b) (n * n') (d * d')

def divNat : Binary64 → Nat → Binary64
  | .finite a m e _, k =>
    let (n, d) := magnitude m e
    ofRatio a n (d * k)
  | x, _ => x

/-- The number is not greater than a whole number; of no order with what is not a number. -/
def leInt (x : Binary64) (k : Int) : Bool :=
  match x with
  | .nan => false
  | .infinite negative => negative
  | .finite .. => match x.toRatio? with
    | some (n, d) => n ≤ k * d
    | none => false

def eqInt (x : Binary64) (k : Int) : Bool :=
  match x.toRatio? with
  | some (n, d) => n == k * d
  | none => false

/-- The numbers are equal: both zeros are, and what is not a number equals nothing. -/
def same : Binary64 → Binary64 → Bool
  | .nan, _ | _, .nan => false
  | x, y => (x.isZero && y.isZero) || x == y

end PromptTree.Binary64
