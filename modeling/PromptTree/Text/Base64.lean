import PromptTree.Text.Blank

/-!
Bytes read from the sixty-four characters of the base64 alphabet.
-/

namespace PromptTree.Text.Base64

def alphabet : List Char :=
  "ABCDEFGHIJKLMNOPQRSTUVWXYZabcdefghijklmnopqrstuvwxyz0123456789+/".toList

/-- Reads groups of four, skipping what is not in the alphabet. `held` are the bits of the open group
and `count` the number of its characters; a group may be closed by equals signs once two of its
characters are there, and reading ends with that group. -/
def decodeFrom (held count padding : Nat) : List Char → Option (List UInt8)
  | [] => if count == 0 then some [] else none
  | c :: rest =>
    if c = '=' then
      if count ≥ 2 && count + padding + 1 ≥ 4 then some []
      else decodeFrom held count (if count ≥ 2 then padding + 1 else padding) rest
    else match alphabet.findIdx? (· = c) with
      | none => decodeFrom held count padding rest
      | some v =>
        let bits := held * 0x40 + v
        match count with
        | 0 => decodeFrom v 1 0 rest
        | 1 => (decodeFrom (bits % 0x10) 2 0 rest).map (UInt8.ofNat (bits / 0x10) :: ·)
        | 2 => (decodeFrom (bits % 4) 3 0 rest).map (UInt8.ofNat (bits / 4) :: ·)
        | _ => (decodeFrom 0 0 0 rest).map (UInt8.ofNat bits :: ·)

/-- The bytes that the characters stand for, if their groups are complete. -/
def decode (cs : List Char) : Option (List UInt8) :=
  decodeFrom 0 0 0 cs

end PromptTree.Text.Base64
