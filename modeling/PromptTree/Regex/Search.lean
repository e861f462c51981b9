import PromptTree.Regex.Basic

/-!
Searching a text for a pattern. Choices are tried in the order in which the pattern gives them; each
part of a pattern is told how the rest goes on, and the first way in which everything fits counts.
-/

namespace PromptTree.Regex

/-- How far a search has come: the text on both sides of the place, the nearest character first, and
what the groups have matched, the latest first. -/
structure Progress where
  before : List Char
  after : List Char
  position : Nat
  captures : List (Nat × List Char)
deriving DecidableEq, Repr

namespace Progress

/-- The place one character further on, if the character there passes. -/
def step (p : Progress) (accepts : Char → Bool) : Option Progress :=
  match p.after with
  | c :: after =>
    if accepts c then some ⟨c :: p.before, after, p.position + 1, p.captures⟩ else none
  | [] => none

def back (p : Progress) : Nat → Option Progress
  | 0 => some p
  | n + 1 =>
    match p.before with
    | c :: before => back ⟨before, c :: p.after, p.position - 1, p.captures⟩ n
    | [] => none

def skipText (p : Progress) (same : Char → Char → Bool) : List Char → Option Progress
  | [] => some p
  | c :: text =>
    match p.step (same c) with
    | some p => p.skipText same text
    | none => none

/-- Remembers what lies between an earlier place and this one. -/
def capture (p : Progress) (number : Nat) (start : Progress) : Progress :=
  { p with captures := (number, start.after.take (p.position - start.position)) :: p.captures }

def isAt (p : Progress) : Anchor → Bool
  | .textStart => p.before.isEmpty
  | .textEnd => p.after.isEmpty
  | .lastLineEnd => p.after.isEmpty || p.after == ['\n']
  | .lineStart => p.before.isEmpty || p.before.head? == some '\n'
  | .lineEnd => p.after.isEmpty || p.after.head? == some '\n'
  | .boundary ascii => isWordAt p.before ascii != isWordAt p.after ascii
  | .notBoundary ascii =>
    !(p.before.isEmpty && p.after.isEmpty) && isWordAt p.before ascii == isWordAt p.after ascii
where
  isWordAt (cs : List Char) (ascii : Bool) : Bool :=
    cs.head?.any (Category.word.holds ascii)

end Progress

/-- A way of matching: given a place and how the rest goes on, the place at the end of everything. -/
abbrev Way := Progress → (Progress → Option Progress) → Option Progress

namespace Way

def times (way : Way) : Nat → Way
  | 0, p, rest => rest p
  | n + 1, p, rest => way p fun q => way.times n q rest

/-- At most so many further times (`none` for any number), more before fewer. After a time that matched
nothing there is no other; `last` is where the last time began. -/
def most (way : Way) : (bound : Nat) → Option Nat → (last : Option Nat) → Way
  | 0, _, _, p, rest => rest p
  | bound + 1, left, last, p, rest =>
    if left == some 0 || last == some p.position then rest p
    else
      match way p fun q => way.most bound (left.map (· - 1)) (some p.position) q rest with
      | some done => some done
      | none => rest p

/-- At most so many further times (`none` for any number), fewer before more. -/
def fewest (way : Way) : (bound : Nat) → Option Nat → (last : Option Nat) → Way
  | 0, _, _, p, rest => rest p
  | bound + 1, left, last, p, rest =>
    match rest p with
    | some done => some done
    | none =>
      if left == some 0 || last == some p.position then none
      else way p fun q => way.fewest bound (left.map (· - 1)) (some p.position) q rest

def possess (way : Way) : (bound : Nat) → Option Nat → Progress → Progress
  | 0, _, p => p
  | bound + 1, left, p =>
    if left == some 0 then p
    else
      match way p some with
      | some q => if q.position == p.position then q else way.possess bound (left.map (· - 1)) q
      | none => p

/-- The first way only, a number of times. -/
def insist (way : Way) : Nat → Progress → Option Progress
  | 0, p => some p
  | n + 1, p =>
    match way p some with
    | some q => way.insist n q
    | none => none

def repeated (way : Way) (least : Nat) (most : Option Nat) (greed : Greed) : Way := fun p rest =>
  let left := most.map (· - least)
  match greed with
  | .most => way.times least p fun q => way.most (q.after.length + 2) left none q rest
  | .fewest => way.times least p fun q => way.fewest (q.after.length + 2) left none q rest
  | .possessive => (way.insist least p).bind fun q => rest (way.possess (q.after.length + 2) left q)

end Way

/-- Goes on from `p` if what is looked for is found, or is not found, as it should be. -/
def look (negated : Bool) (found : Option Progress) (p : Progress)
    (rest : Progress → Option Progress) : Option Progress :=
  match negated, found with
  | false, some q => rest { p with captures := q.captures }
  | true, none => rest p
  | _, _ => none

def way : Regex → Way
  | .empty, p, rest => rest p
  | .one set, p, rest => (p.step set.holds).bind rest
  | .anchor place, p, rest => if p.isAt place then rest p else none
  | .append a b, p, rest => a.way p fun q => b.way q rest
  | .either a b, p, rest =>
    match a.way p rest with
    | some done => some done
    | none => b.way p rest
  | .repeated least most greed body, p, rest => Way.repeated body.way least most greed p rest
  | .group number body, p, rest => body.way p fun q => rest (q.capture number p)
  | .atomic body, p, rest => (body.way p some).bind rest
  | .ahead negated body, p, rest => look negated (body.way p some) p rest
  | .behind negated width body, p, rest =>
    look negated ((p.back width).bind fun q => body.way q some) p rest
  | .again number ignoreCase ascii, p, rest =>
    let same := fun a b =>
      if ignoreCase then foldLetter ascii a == foldLetter ascii b else a == b
    ((p.captures.lookup number).bind (p.skipText same)).bind rest
  | .ifGroup number yes no, p, rest =>
    if (p.captures.lookup number).isSome then yes.way p rest else no.way p rest

def findFrom? (regex : Regex) (before : List Char) (position : Nat) : List Char → Option Progress
  | [] => regex.way ⟨before, [], position, []⟩ some
  | c :: after =>
    match regex.way ⟨before, c :: after, position, []⟩ some with
    | some done => some done
    | none => regex.findFrom? (c :: before) (position + 1) after

def foundIn (regex : Regex) (text : String) : Bool :=
  (regex.findFrom? [] 0 text.toList).isSome

end PromptTree.Regex
