import PromptTree.Text.Blank
import PromptTree.Text.Digit
import PromptTree.Text.Letter
import PromptTree.Text.Word

/-!
Sets of characters, as patterns write them, with or without regard to case.
-/

namespace PromptTree.Regex

/-- How characters are classified and compared. -/
structure Options where
  /-- Upper and lower case are the same. -/
  ignoreCase : Bool := false
  /-- Lines begin and end inside the text too. -/
  multiline : Bool := false
  /-- A dot stands for a line end too. -/
  dotAll : Bool := false
  /-- Classes and case concern ASCII only. -/
  ascii : Bool := false
deriving DecidableEq, Repr

inductive Category where
  | digit
  | blank
  | word
deriving DecidableEq, Repr

def Category.holds (category : Category) (ascii : Bool) (c : Char) : Bool :=
  match category with
  | digit => if ascii then c.isDigit else Text.isDigit c
  | blank => if ascii then Text.isAsciiBlank c else Text.isBlank c
  | word => if ascii then c.isAlphanum || c == '_' else Text.isWord c

/-- One entry of a set: code points from one to another, or a class or its complement. -/
inductive SetItem where
  | range (low high : Nat)
  | category (category : Category) (negated : Bool)
deriving DecidableEq, Repr

/-- Lower-case letters of different code points that have one upper case. -/
def twins : List (List Nat) :=
  [[0x69, 0x131], [0x73, 0x17F], [0xB5, 0x3BC], [0x345, 0x3B9, 0x1FBE], [0x390, 0x1FD3],
   [0x3B0, 0x1FE3], [0x3B2, 0x3D0], [0x3B5, 0x3F5], [0x3B8, 0x3D1], [0x3BA, 0x3F0], [0x3C0, 0x3D6],
   [0x3C1, 0x3F1], [0x3C2, 0x3C3], [0x3C6, 0x3D5], [0x432, 0x1C80], [0x434, 0x1C81], [0x43E, 0x1C82],
   [0x441, 0x1C83], [0x442, 0x1C84, 0x1C85], [0x44A, 0x1C86], [0x463, 0x1C87], [0x1C88, 0xA64B],
   [0x1E61, 0x1E9B], [0xFB05, 0xFB06]]

def twinsOf (code : Nat) : List Nat :=
  (twins.find? (·.contains code)).getD [code]

/-- The lower case that letters are compared by: of a capital with a dot, the letter without it. -/
def foldLetter (ascii : Bool) (c : Char) : Char :=
  if ascii then c.toLower else if c.toNat = 0x130 then 'i' else Text.lowerLetter c

/-- The code points whose lower case is the given code point. -/
def unfold (code : Nat) : List Nat :=
  let moved := Text.lowerRuns.filterMap fun run =>
    let source := (code : Int) - run.shift
    if 0 ≤ source && run.covers source.toNat then some source.toNat else none
  (code :: 0x130 :: moved).filter fun source => (foldLetter false (.ofNat source)).toNat = code

/-- The code points that count as a character when case is ignored. -/
def variants (ascii : Bool) (c : Char) : List Nat :=
  if ascii then [c.toNat, c.toLower.toNat, c.toUpper.toNat]
  else (twinsOf (foldLetter false c).toNat).flatMap unfold

structure CharSet where
  items : List SetItem
  negated : Bool
  ignoreCase : Bool
  ascii : Bool
deriving DecidableEq, Repr

namespace CharSet

def single (options : Options) (code : Nat) : CharSet :=
  ⟨[.range code code], false, options.ignoreCase, options.ascii⟩

def ofCategory (options : Options) (category : Category) (negated : Bool) : CharSet :=
  ⟨[.category category negated], false, false, options.ascii⟩

def holdsItem (set : CharSet) (c : Char) : SetItem → Bool
  | .range low high =>
    if set.ignoreCase then (variants set.ascii c).any fun code => low ≤ code && code ≤ high
    else low ≤ c.toNat && c.toNat ≤ high
  | .category category negated => category.holds set.ascii c != negated

def holds (set : CharSet) (c : Char) : Bool :=
  set.items.any (set.holdsItem c) != set.negated

end CharSet

end PromptTree.Regex
