import PromptTree.Text.Split

/-!
Paths of files. The parts of a path that has been read are names or steps upwards, never empty and never
a single dot.
-/

namespace PromptTree.Files

/-- A path: the slashes in front, of which there are at most two, and the parts. -/
structure Path where
  slashes : Nat
  parts : List String
deriving DecidableEq, Repr

namespace Path

def isPart (part : String) : Bool :=
  part ≠ "" && part ≠ "."

/-- The path that a text writes. Three slashes in front count as one. -/
def ofText (s : String) : Path :=
  let front := (s.toList.takeWhile (· = '/')).length
  ⟨if front ≤ 2 then front else 1,
    ((Text.splitOn '/' s.toList).map String.ofList).filter isPart⟩

def text (p : Path) : String :=
  if p.slashes = 0 ∧ p.parts = [] then "."
  else .ofList (List.replicate p.slashes '/') ++ String.intercalate "/" p.parts

/-- The place that parts lead to from a place, where a step upwards takes back the part before it. -/
def follow (place : List String) (parts : List String) : List String :=
  parts.foldl (fun place part => if part = ".." then place.dropLast else place ++ [part]) place

def absolute (p : Path) (place : List String) : Path :=
  if p.slashes = 0 then ⟨1, follow place p.parts⟩ else ⟨p.slashes, follow [] p.parts⟩

/-- The end of a name from its last dot on, unless that stands first or last. -/
def ending (name : String) : String :=
  let tail := name.toList.reverse.takeWhile (· ≠ '.')
  if tail.isEmpty || name.length ≤ tail.length + 1 then "" else .ofList ('.' :: tail.reverse)

def extension (p : Path) : String :=
  (ending (p.parts.getLast?.getD "")).map Char.toLower

end Path

end PromptTree.Files
