import PromptTree.Text.Quoted

/-!
Bytes read as UTF-8, with the place and the cause of the first fault.
-/

namespace PromptTree.Text.Utf8

inductive Cause where
  | invalidStart
  | invalidContinuation
  | unexpectedEnd
deriving DecidableEq, Repr

/-- A fault in the bytes from `position` on, which concerns `length` of them. -/
structure Fault where
  cause : Cause
  position : Nat
  length : Nat
  byte : UInt8
deriving DecidableEq, Repr

def Cause.message : Cause → String
  | .invalidStart => "invalid start byte"
  | .invalidContinuation => "invalid continuation byte"
  | .unexpectedEnd => "unexpected end of data"

/-- The wording of a fault: a single byte is shown, of several only the place. -/
def Fault.message (f : Fault) : String :=
  if f.length == 1 then
    s!"'utf-8' codec can't decode byte 0x{String.ofList (Quoted.hex 2 f.byte.toNat)}" ++
      s!" in position {f.position}: {f.cause.message}"
  else
    s!"'utf-8' codec can't decode bytes in position {f.position}-{f.position + f.length - 1}: " ++
      f.cause.message

/-- How a character that starts with the byte goes on: how many bytes follow it, and between which
bounds the first of these lies. -/
def shape? (b : UInt8) : Option (Nat × UInt8 × UInt8) :=
  if b < 0x80 then some (0, 0x80, 0xBF)
  else if b < 0xC2 then none
  else if b < 0xE0 then some (1, 0x80, 0xBF)
  else if b == 0xE0 then some (2, 0xA0, 0xBF)
  else if b == 0xED then some (2, 0x80, 0x9F)
  else if b < 0xF0 then some (2, 0x80, 0xBF)
  else if b == 0xF0 then some (3, 0x90, 0xBF)
  else if b == 0xF4 then some (3, 0x80, 0x8F)
  else if b < 0xF4 then some (3, 0x80, 0xBF)
  else none

def leadBits (count : Nat) (b : UInt8) : Nat :=
  match count with
  | 0 => b.toNat
  | 1 => b.toNat % 0x20
  | 2 => b.toNat % 0x10
  | _ => b.toNat % 0x08

/-- The character read so far, when `count` more bytes are wanted, the next of them between `low` and
`high`. Bytes before the first fault belong to it. -/
def decodeFrom (position : Nat) (start : UInt8) (code seen count : Nat) (low high : UInt8) :
    List UInt8 → Except Fault (List Char)
  | [] =>
    match count with
    | 0 => .ok []
    | _ => .error ⟨.unexpectedEnd, position, seen, start⟩
  | b :: rest =>
    match count with
    | 0 =>
      match shape? b with
      | none => .error ⟨.invalidStart, position, 1, b⟩
      | some (0, _, _) => (decodeFrom (position + 1) b 0 0 0 0 0 rest).map (Char.ofNat b.toNat :: ·)
      | some (count, low, high) => decodeFrom position b (leadBits count b) 1 count low high rest
    | count + 1 =>
      if low ≤ b && b ≤ high then
        let code := code * 0x40 + b.toNat % 0x40
        match count with
        | 0 => (decodeFrom (position + seen + 1) start 0 0 0 0 0 rest).map (Char.ofNat code :: ·)
        | count => decodeFrom position start code (seen + 1) count 0x80 0xBF rest
      else .error ⟨.invalidContinuation, position, seen, start⟩

def decode (bytes : List UInt8) : Except Fault String :=
  (decodeFrom 0 0 0 0 0 0 0 bytes).map .ofList

end PromptTree.Text.Utf8
