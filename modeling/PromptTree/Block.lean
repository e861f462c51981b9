import PromptTree.Text.Blank
import PromptTree.Text.Markup
import PromptTree.Text.QuotedPrintable
import PromptTree.Text.Split

/-!
Blocks: spans of a text that begin with a list of modes between angle brackets and reach to an end
mark. A block is replaced by its body, passed through its modes from left to right; blocks inside of
blocks come first.
-/

namespace PromptTree

/-- What a mode does to the body of a block. -/
inductive Transform where
  | textToHtml
  | quotedPrintable
deriving DecidableEq, Repr

namespace Transform

/-- The transform that a mode names; blanks around the name do not count. -/
def named? (mode : List Char) : Option Transform :=
  match String.ofList (Text.trimWhile Text.isBlank mode) with
  | "text-to-html" => some .textToHtml
  | "quoted-printable" => some .quotedPrintable
  | _ => none

def apply : Transform → List Char → List Char
  | .textToHtml => Text.Markup.ofText
  | .quotedPrintable => Text.QuotedPrintable.ofText

end Transform

structure UnknownMode where
  mode : String
deriving DecidableEq, Repr

def UnknownMode.message (e : UnknownMode) : String :=
  s!"Unknown block processing method: '{e.mode}'"

/-- A block without blocks inside: the text of its modes, and its body. -/
structure Block where
  modes : List Char
  body : List Char
deriving DecidableEq, Repr

namespace Block

/-- The mark in front of the modes and of the end mark. -/
def opening : List Char := ['<', '<', '<']

/-- The mark behind the modes. -/
def closing : List Char := ['>', '>', '>']

/-- What follows the opening mark at the end of a block. -/
def endTail : List Char := ['e', 'n', 'd', '>', '>', '>']

def isModeChar (c : Char) : Bool :=
  c ≠ '<' && c ≠ '>'

/-- The text up to the first opening mark, which has to be that of an end mark, and the text behind the
end mark. -/
def bodyUntilEnd? : List Char → Option (List Char × List Char)
  | [] => none
  | c :: rest =>
    match Text.after? opening (c :: rest) with
    | some tail => (Text.after? endTail tail).map fun after => ([], after)
    | none => (bodyUntilEnd? rest).map fun (body, after) => (c :: body, after)

/-- The block at the start of a text, and the text behind it. -/
def read? (cs : List Char) : Option (Block × List Char) :=
  match Text.after? opening cs with
  | none => none
  | some rest =>
    if (Text.after? endTail rest).isSome then none
    else match Text.after? closing (rest.dropWhile isModeChar) with
      | none => none
      | some rest' =>
        (bodyUntilEnd? rest').map fun (body, after) => (⟨rest.takeWhile isModeChar, body⟩, after)

def write (b : Block) : List Char :=
  opening ++ b.modes ++ closing ++ b.body ++ opening ++ endTail

theorem append_of_bodyUntilEnd? {cs body after : List Char}
    (h : bodyUntilEnd? cs = some (body, after)) : cs = body ++ opening ++ endTail ++ after := by
  induction cs generalizing body with
  | nil => simp [bodyUntilEnd?] at h
  | cons c rest ih =>
    unfold bodyUntilEnd? at h
    split at h
    · next tail ht =>
      obtain ⟨a, ha, he⟩ := Option.map_eq_some_iff.1 h
      simp only [Prod.mk.injEq] at he
      obtain ⟨rfl, rfl⟩ := he
      rw [Text.append_of_after? ht, Text.append_of_after? ha]
      simp
    · obtain ⟨⟨b, a⟩, hb, he⟩ := Option.map_eq_some_iff.1 h
      simp only [Prod.mk.injEq] at he
      obtain ⟨rfl, rfl⟩ := he
      simp [ih hb]

/-- Reading a block loses nothing. -/
theorem append_of_read? {cs after : List Char} {b : Block} (h : read? cs = some (b, after)) :
    cs = b.write ++ after := by
  unfold read? at h
  split at h
  · simp at h
  · next rest hr =>
    split at h
    · simp at h
    · split at h
      · simp at h
      · next rest' hr' =>
        obtain ⟨⟨body, a⟩, hb, he⟩ := Option.map_eq_some_iff.1 h
        simp only [Prod.mk.injEq] at he
        obtain ⟨rfl, rfl⟩ := he
        have hm := List.takeWhile_append_dropWhile (p := isModeChar) (l := rest)
        rw [Text.append_of_after? hr', append_of_bodyUntilEnd? hb] at hm
        rw [Text.append_of_after? hr]
        simp only [write, List.append_assoc] at hm ⊢
        rw [hm]

theorem length_of_read? {cs after : List Char} {b : Block} (h : read? cs = some (b, after)) :
    after.length < cs.length := by
  rw [append_of_read? h]
  simp [write, opening]
  omega

def pipe : List (List Char) → List Char → Except UnknownMode (List Char)
  | [], body => .ok body
  | mode :: modes, body =>
    match Transform.named? mode with
    | some transform => pipe modes (transform.apply body)
    | none => .error ⟨.ofList mode⟩

def value (b : Block) : Except UnknownMode (List Char) :=
  pipe (Text.splitOn '|' b.modes) b.body

/-- One pass over a text: each block without blocks inside is replaced, from left to right. -/
def pass : List Char → Except UnknownMode (List Char)
  | [] => .ok []
  | c :: rest =>
    match h : read? (c :: rest) with
    | some (b, after) =>
      have := length_of_read? h
      do return (← b.value) ++ (← pass after)
    | none => do return c :: (← pass rest)
termination_by cs => cs.length
decreasing_by all_goals simp only [List.length_cons] at *; omega

/-- Passes over a text until it stays the same, at most as many as given. -/
def settle : (passes : Nat) → List Char → Except UnknownMode (List Char)
  | 0, cs => .ok cs
  | passes + 1, cs => do
    let updated ← pass cs
    if updated = cs then return updated else settle passes updated

/-- Replaces every block of a text. Each pass that changes anything uses up opening marks, so there
are no more such passes than opening marks in the text. -/
def transform (cs : List Char) : Except UnknownMode (List Char) :=
  settle (cs.count '<' + 1) cs

end Block

end PromptTree
