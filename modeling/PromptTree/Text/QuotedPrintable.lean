import PromptTree.Text.Digit

/-!
The quoted-printable transfer encoding of bytes: lines of at most 76 characters, all of them visible
ASCII, with a soft break where a line has to be cut.
-/

namespace PromptTree.Text.QuotedPrintable

def maxLine : Nat := 76

/-- A byte as an equals sign and two capital hexadecimal digits. -/
def escape (b : UInt8) : List Char :=
  '=' :: (padZeros 2 (.ofList (digitsOf 16 b.toNat))).toList.map Char.toUpper

def charOf (b : UInt8) : Char :=
  Char.ofNat b.toNat

/-- What is left after a line end, when the bytes begin with one. -/
def afterLineEnd? : List UInt8 → Option (List UInt8)
  | 0x0A :: rest => some rest
  | 0x0D :: 0x0A :: rest => some rest
  | _ => none

def isSpace (b : UInt8) : Bool :=
  b == 0x20 || b == 0x09

def isLoneStop (column : Nat) (b : UInt8) (rest : List UInt8) : Bool :=
  b == 0x2E && column == 0 &&
    match rest with
    | [] => true
    | next :: _ => next == 0x0A || next == 0x0D || next == 0x00

/-- The byte has to be written as its number, whatever line it is in. -/
def mustEscape (column : Nat) (b : UInt8) (rest : List UInt8) : Bool :=
  b > 126 || b == 0x3D || isLoneStop column b rest || (isSpace b && rest.isEmpty) ||
    (b < 33 && b != 0x0D && b != 0x0A && !isSpace b)

/-- A plain byte needs a soft break in front of it: there is more to come on the line than fits. -/
def overflows (column : Nat) : List UInt8 → Bool
  | [] => false
  | next :: _ => next != 0x0A && column + 1 ≥ maxLine

def encodeFrom (lineEnd : List Char) (column : Nat) : List UInt8 → List Char
  | [] => []
  | b :: rest =>
    if mustEscape column b rest then
      if column + 3 ≥ maxLine then '=' :: lineEnd ++ escape b ++ encodeFrom lineEnd 3 rest
      else escape b ++ encodeFrom lineEnd (column + 3) rest
    else match b, rest with
      | 0x0A, rest => lineEnd ++ encodeFrom lineEnd 0 rest
      | 0x0D, 0x0A :: rest => lineEnd ++ encodeFrom lineEnd 0 rest
      | b, rest =>
        let soft := overflows column rest
        let shown := if isSpace b && (afterLineEnd? rest).isSome then escape b else [charOf b]
        (if soft then '=' :: lineEnd else []) ++ shown ++
          encodeFrom lineEnd (if soft then 1 else column + 1) rest

def hasWideLineEnds : List UInt8 → Bool
  | [] => false
  | 0x0A :: _ => false
  | 0x0D :: 0x0A :: _ => true
  | _ :: rest => hasWideLineEnds rest

/-- The bytes in the encoding; all line ends are written as the first one is. -/
def encode (bytes : List UInt8) : List Char :=
  encodeFrom (if hasWideLineEnds bytes then ['\r', '\n'] else ['\n']) 0 bytes

def ofText (cs : List Char) : List Char :=
  encode (String.ofList cs).toUTF8.toList

end PromptTree.Text.QuotedPrintable
