import PromptTree.Regex.CharSet

/-!
Patterns that texts are searched for.
-/

namespace PromptTree

namespace Regex

inductive Anchor where
  | textStart
  | textEnd
  /-- The end of the text, or the line end that ends it. -/
  | lastLineEnd
  | lineStart
  | lineEnd
  /-- A word begins or ends here. -/
  | boundary (ascii : Bool)
  | notBoundary (ascii : Bool)
deriving DecidableEq, Repr

/-- How many repetitions are tried first, and whether fewer or more are tried when what follows does
not fit. -/
inductive Greed where
  | most
  | fewest
  /-- As many as possible, and no others. -/
  | possessive
deriving DecidableEq, Repr

end Regex

inductive Regex where
  | empty
  | one (set : Regex.CharSet)
  | anchor (anchor : Regex.Anchor)
  | append (first second : Regex)
  | either (first second : Regex)
  | repeated (least : Nat) (most : Option Nat) (greed : Regex.Greed) (body : Regex)
  /-- Remembers what it matches under a number. -/
  | group (number : Nat) (body : Regex)
  /-- Is matched in the first way that is found only. -/
  | atomic (body : Regex)
  /-- Looks ahead without moving. -/
  | ahead (negated : Bool) (body : Regex)
  /-- Looks at as many characters before the place as the width says. -/
  | behind (negated : Bool) (width : Nat) (body : Regex)
  /-- The text that a group matched. -/
  | again (number : Nat) (ignoreCase ascii : Bool)
  /-- One pattern if a group has matched, else the other. -/
  | ifGroup (number : Nat) (yes no : Regex)
deriving DecidableEq, Repr

namespace Regex

def ofList : List Regex → Regex
  | [] => .empty
  | [only] => only
  | first :: rest => .append first (ofList rest)

/-- The least and the greatest number of characters that a pattern matches. -/
structure Width where
  least : Nat
  most : Nat
deriving DecidableEq, Repr

namespace Width

/-- Widths are not told apart from here on. -/
def bound : Nat := 18446744073709551616

def exactly (n : Nat) : Width := ⟨n, n⟩

def append (a b : Width) : Width := ⟨a.least + b.least, a.most + b.most⟩

def either (a b : Width) : Width := ⟨min a.least b.least, max a.most b.most⟩

def repeated (w : Width) (least : Nat) : Option Nat → Width
  | some most => ⟨w.least * least, w.most * most⟩
  | none => ⟨w.least * least, if w.most = 0 then 0 else bound⟩

def cut (w : Width) : Width := ⟨min w.least bound, min w.most bound⟩

end Width

/-- The width of a pattern whose groups have the given widths. -/
def width (groups : Nat → Width) : Regex → Width
  | .empty | .anchor _ | .ahead _ _ | .behind _ _ _ => .exactly 0
  | .one _ => .exactly 1
  | .append a b => ((a.width groups).append (b.width groups)).cut
  | .either a b => ((a.width groups).either (b.width groups)).cut
  | .repeated least most _ body => ((body.width groups).repeated least most).cut
  | .group _ body | .atomic body => body.width groups
  | .again number _ _ => groups number
  | .ifGroup _ yes no => ((yes.width groups).either (no.width groups)).cut

end Regex

end PromptTree
