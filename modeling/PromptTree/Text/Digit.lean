import PromptTree.Text.Blank

/-!
Decimal digits of every script, and whole numbers written with them.
-/

namespace PromptTree.Text

/-- The code points of the digit zero; the digits one to nine follow each of them. -/
def digitZeros : List Nat :=
  [0x0030, 0x0660, 0x06F0, 0x07C0, 0x0966, 0x09E6, 0x0A66, 0x0AE6, 0x0B66, 0x0BE6, 0x0C66, 0x0CE6,
   0x0D66, 0x0DE6, 0x0E50, 0x0ED0, 0x0F20, 0x1040, 0x1090, 0x17E0, 0x1810, 0x1946, 0x19D0, 0x1A80,
   0x1A90, 0x1B50, 0x1BB0, 0x1C40, 0x1C50, 0xA620, 0xA8D0, 0xA900, 0xA9D0, 0xA9F0, 0xAA50, 0xABF0,
   0xFF10, 0x104A0, 0x10D30, 0x11066, 0x110F0, 0x11136, 0x111D0, 0x112F0, 0x11450, 0x114D0, 0x11650,
   0x116C0, 0x11730, 0x118E0, 0x11950, 0x11C50, 0x11D50, 0x11DA0, 0x16A60, 0x16AC0, 0x16B50, 0x1D7CE,
   0x1D7D8, 0x1D7E2, 0x1D7EC, 0x1D7F6, 0x1E140, 0x1E2F0, 0x1E950, 0x1FBF0]

def digitValue? (c : Char) : Option Nat :=
  (digitZeros.find? fun z => z ≤ c.toNat && c.toNat < z + 10).map (c.toNat - ·)

def isDigit (c : Char) : Bool :=
  (digitValue? c).isSome

/-- The number written by digit values, the most significant first. -/
def numberOfDigits (base : Nat) (digits : List Nat) : Nat :=
  digits.foldl (fun n d => n * base + d) 0

/-- Digits with at most one underscore between two of them. -/
def groupedDigits? : List Char → Option (List Nat)
  | [] => none
  | [c] => (digitValue? c).map ([·])
  | c :: '_' :: rest => do
    let d ← digitValue? c
    let ds ← groupedDigits? rest
    return d :: ds
  | c :: rest => do
    let d ← digitValue? c
    let ds ← groupedDigits? rest
    return d :: ds

/-- The longest digit sequence that is read as, or written for, one whole number. -/
def maxNumberDigits : Nat := 4300

def exceedsDigits (detail : String) : String :=
  s!"Exceeds the limit ({maxNumberDigits} digits) for integer string conversion{detail}; " ++
    "use sys.set_int_max_str_digits() to increase the limit"

def tooManyDigits (digits : Nat) : String :=
  exceedsDigits s!": value has {digits} digits"

/-- A whole number: an optional sign, and grouped decimal digits. -/
def readTrimmedInt? (cs : List Char) : Option Int := do
  let (negative, cs) := match cs with
    | '-' :: rest => (true, rest)
    | '+' :: rest => (false, rest)
    | rest => (false, rest)
  let digits ← groupedDigits? cs
  if digits.length > maxNumberDigits then failure
  let n := numberOfDigits 10 digits
  return if negative then -n else n

def readInt? (s : String) : Option Int :=
  readTrimmedInt? (trimWhile isNumberBlank s.toList)

/-- The digits of a number in a base up to sixteen, in lower case, at least one. -/
def digitsOf (base : Nat) (n : Nat) : List Char :=
  Nat.toDigits base n

def padZeros (width : Nat) (s : String) : String :=
  .ofList (List.replicate (width - s.length) '0') ++ s

/-- A number in decimal, with zeros in front up to the given width. -/
def paddedNat (width n : Nat) : String :=
  padZeros width (toString n)

end PromptTree.Text
