import Mathlib.Algebra.Ring.Int.Defs
import Mathlib.Algebra.Ring.Nat
import PromptTree.Value.Basic

/-!
When two values are the same key. Numbers are by what they amount to, and all of them are whole
multiples of the least positive number of the floating point format; so a value that can be a key
has a form that decides what it is the same as (`same_iff`). Main statements: being the same is
symmetric (`same_comm`) and transitive (`same_trans`).
-/

namespace PromptTree

namespace Binary64

/-- A number of powers of two as the number of least positive numbers of the format. -/
def unitsOf (mantissa exponent : Int) : Int :=
  mantissa * 2 ^ (exponent - minExponent).toNat

def signed (negative : Bool) (mantissa : Nat) : Int :=
  if negative then -mantissa else mantissa

theorem unitsOf_eq_iff {n k : Int} {e f : Int} (small : minExponent ≤ e) (le : e ≤ f) :
    unitsOf n e = unitsOf k f ↔ n = k * 2 ^ (f - e).toNat := by
  have exponent : (f - minExponent).toNat = (f - e).toNat + (e - minExponent).toNat := by omega
  have positive : (2 : Int) ^ (e - minExponent).toNat ≠ 0 := by
    exact Int.pow_ne_zero (by decide)
  rw [unitsOf, unitsOf, exponent, Int.pow_add, ← Int.mul_assoc]
  exact Int.mul_eq_mul_right_iff positive

theorem eqInt_iff {negative : Bool} {m : Nat} {e : Int} (canonical : IsCanonical m e) (k : Int) :
    (finite negative m e canonical).eqInt k = true ↔
      unitsOf (signed negative m) e = unitsOf k 0 := by
  have small := canonical.least
  have zeroSmall : minExponent ≤ 0 := by decide
  by_cases fraction : e < 0
  · rw [unitsOf_eq_iff small (Int.le_of_lt fraction), Int.zero_sub]
    simp [eqInt, toRatio?, magnitude, fraction, signed]
  · rw [@eq_comm Int (unitsOf _ e), unitsOf_eq_iff zeroSmall (Int.not_lt.mp fraction), Int.sub_zero]
    cases negative <;> simp [eqInt, toRatio?, magnitude, fraction, signed, @eq_comm Int k]

@[simp] theorem natAbs_signed (negative : Bool) (m : Nat) : (signed negative m).natAbs = m := by
  cases negative <;> simp [signed]

/-- Numbers of the format that amount to the same are both zero, or written in the same way: one with
a greater exponent has a longer mantissa. -/
theorem eq_of_unitsOf_eq {a b : Bool} {m n : Nat} {e f : Int}
    (canonical : IsCanonical m e) (canonicalToo : IsCanonical n f) (le : e ≤ f)
    (same : unitsOf (signed a m) e = unitsOf (signed b n) f) :
    (m = 0 ∧ n = 0) ∨ finite a m e canonical = finite b n f canonicalToo := by
  have scaled := (unitsOf_eq_iff canonical.least le).mp same
  have mantissa : m = n * 2 ^ (f - e).toNat := by
    simpa [Int.natAbs_mul, Int.natAbs_pow] using congrArg Int.natAbs scaled
  by_cases isZero : n = 0
  · left
    rw [isZero, Nat.zero_mul] at mantissa
    exact ⟨mantissa, isZero⟩
  · right
    by_cases sameExponent : e = f
    · subst sameExponent
      rw [Int.sub_self, Int.toNat_zero, Nat.pow_zero, Nat.mul_one] at mantissa
      subst mantissa
      rw [Int.sub_self, Int.toNat_zero, Int.pow_zero, Int.mul_one] at scaled
      have sameSign : a = b := by
        cases a <;> cases b <;> simp [signed] at scaled ⊢ <;> omega
      subst sameSign
      rfl
    · have twice : n * 2 ≤ m := by
        rw [mantissa]
        apply Nat.mul_le_mul_left
        exact Nat.le_self_pow (by omega) 2
      have short := canonical.short
      have small := canonical.least
      have long := canonicalToo.long
      have bound : Nat.pow 2 53 = Nat.pow 2 52 * 2 := rfl
      omega

theorem isZero_finite {negative : Bool} {m : Nat} {e : Int} (canonical : IsCanonical m e) :
    (finite negative m e canonical).isZero = true ↔ m = 0 := by
  cases m <;> simp [isZero]

theorem same_finite_iff {a b : Bool} {m n : Nat} {e f : Int}
    (canonical : IsCanonical m e) (canonicalToo : IsCanonical n f) :
    (finite a m e canonical).same (finite b n f canonicalToo) = true ↔
      unitsOf (signed a m) e = unitsOf (signed b n) f := by
  have isSame : (finite a m e canonical).same (finite b n f canonicalToo) = true ↔
      (m = 0 ∧ n = 0) ∨ finite a m e canonical = finite b n f canonicalToo := by
    simp [same, isZero_finite]
  rw [isSame]
  constructor
  · rintro (⟨rfl, rfl⟩ | same)
    · simp [signed, unitsOf]
    · cases same
      rfl
  · intro same
    rcases Int.le_total e f with le | le
    · exact eq_of_unitsOf_eq canonical canonicalToo le same
    · exact (eq_of_unitsOf_eq canonicalToo canonical le same.symm).imp And.symm Eq.symm

end Binary64

inductive KeyForm where
  | null
  /-- A finite number, as a multiple of the least positive number of the floating point format. -/
  | number (units : Int)
  | infinite (negative : Bool)
  | text (s : String)
  | date (d : Calendar.Date)
  /-- Microseconds, of a local time or of one whose offset is known. -/
  | instant (known : Bool) (microseconds : Int)
  | bytes (content : List UInt8)

/-- The form of a floating point number as a key. What is not a number has none. -/
def Binary64.keyForm? : Binary64 → Option KeyForm
  | finite negative mantissa exponent _ =>
    some (.number (unitsOf (signed negative mantissa) exponent))
  | infinite negative => some (.infinite negative)
  | nan => none

theorem Binary64.unitsOf_zero_inj {m n : Int} : unitsOf m 0 = unitsOf n 0 ↔ m = n := by
  rw [unitsOf_eq_iff (by decide) (Int.le_refl 0), Int.sub_self, Int.toNat_zero, Int.pow_zero,
    Int.mul_one]

theorem Binary64.eqInt_iff_keyForm? (x : Binary64) (k : Int) :
    x.eqInt k = true ↔ x.keyForm? = some (.number (unitsOf k 0)) := by
  cases x with
  | finite negative m e canonical =>
    rw [eqInt_iff canonical, keyForm?, Option.some.injEq, KeyForm.number.injEq]
  | infinite negative => simp [eqInt, toRatio?, keyForm?]
  | nan => simp [eqInt, toRatio?, keyForm?]

theorem Binary64.same_iff {x y : Binary64} :
    x.same y = true ↔ x.keyForm? ≠ none ∧ x.keyForm? = y.keyForm? := by
  cases x with
  | finite a m e canonical =>
    cases y with
    | finite b n f canonicalToo =>
      rw [same_finite_iff canonical canonicalToo]
      simp [keyForm?]
    | _ => simp [same, keyForm?, isZero]
  | infinite a => cases y <;> simp [same, keyForm?, isZero]
  | nan => simp [same, keyForm?]

namespace Value

def instantOf (m : Calendar.Moment) : KeyForm :=
  .instant m.offset.isSome (m.microseconds - (m.offset.map Calendar.Offset.microseconds).getD 0)

/-- The form of a value as a key, if it can be the same as another one. -/
def keyForm? : Value → Option KeyForm
  | null => some .null
  | bool b => some (.number (Binary64.unitsOf (if b then 1 else 0) 0))
  | int n => some (.number (Binary64.unitsOf n 0))
  | float x => x.keyForm?
  | text s => some (.text s)
  | date d => some (.date d)
  | moment m => some (instantOf m)
  | bytes content => some (.bytes content)
  | list _ | map _ | set _ => none

theorem sameMoment_iff {m n : Calendar.Moment} :
    sameMoment m n = true ↔ instantOf m = instantOf n := by
  unfold sameMoment instantOf
  cases m.offset <;> cases n.offset <;> simp

/-- Values are the same if and only if they have the same form as a key. -/
theorem same_iff {a b : Value} :
    a.same b = true ↔ a.keyForm? ≠ none ∧ a.keyForm? = b.keyForm? := by
  cases a with
  | float x =>
    cases b with
    | float y => exact Binary64.same_iff
    | bool | int =>
      simp only [same, toInt?, keyForm?, Option.any_some, Binary64.eqInt_iff_keyForm?]
      exact (and_iff_right_of_imp fun isNumber => by simp [isNumber]).symm
    | _ => cases x <;> simp [same, toInt?, keyForm?, Binary64.keyForm?, instantOf]
  | moment m =>
    cases b with
    | moment n => simp [same, keyForm?, sameMoment_iff]
    | float y => cases y <;> simp [same, toInt?, keyForm?, Binary64.keyForm?, instantOf]
    | _ => simp [same, toInt?, keyForm?, instantOf]
  | bool | int =>
    cases b with
    | float y =>
      simp [same, toInt?, keyForm?, Binary64.eqInt_iff_keyForm?, @eq_comm _ y.keyForm?]
    | bool | int => simp [same, toInt?, keyForm?, Binary64.unitsOf_zero_inj]
    | _ => simp [same, toInt?, keyForm?, instantOf]
  | _ =>
    cases b with
    | float y => cases y <;> simp [same, toInt?, keyForm?, Binary64.keyForm?]
    | _ => simp [same, toInt?, keyForm?, instantOf]

theorem same_comm (a b : Value) : a.same b = b.same a := by
  rw [Bool.eq_iff_iff, same_iff, same_iff]
  constructor
  · rintro ⟨hasForm, sameForm⟩
    exact ⟨sameForm ▸ hasForm, sameForm.symm⟩
  · rintro ⟨hasForm, sameForm⟩
    exact ⟨sameForm ▸ hasForm, sameForm.symm⟩

theorem same_trans {a b c : Value} (first : a.same b = true) (second : b.same c = true) :
    a.same c = true := by
  rw [same_iff] at first second ⊢
  exact ⟨first.1, first.2.trans second.2⟩

/-- What is the same as one of two values that are the same is the same as the other. -/
theorem same_congr {a b : Value} (same : a.same b = true) (c : Value) : a.same c = b.same c := by
  have sameBack : b.same a = true := by rwa [same_comm]
  rw [Bool.eq_iff_iff]
  exact ⟨same_trans sameBack, same_trans same⟩

theorem not_same_of_same {a b c : Value} (different : ¬ a.same b = true) (same : a.same c = true) :
    ¬ b.same c = true := by
  intro sameToo
  rw [same_comm] at sameToo
  exact different (same_trans same sameToo)

end Value

end PromptTree
