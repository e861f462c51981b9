import PromptTree.Text.Split

/-!
Templates cut into characters and references. A reference begins with a dollar sign and an opening
brace and reaches to the brace that balances it; a capture may follow at once. Main statement: the
pieces, written out, are the text (`rawAll_read`).
-/

namespace PromptTree.Template

/-- A part of a template: a character that stands for itself, or a reference with the pieces of its
body and the name of its capture. -/
inductive Piece where
  | char (c : Char)
  | reference (body : List Piece) (capture : Option (List Char))

namespace Piece

def rawCapture : Option (List Char) → List Char
  | none => []
  | some name => '$' :: '{' :: '>' :: name ++ ['}']

mutual

def raw : Piece → List Char
  | .char c => [c]
  | .reference body capture => '$' :: '{' :: rawAll body ++ '}' :: rawCapture capture
termination_by structural p => p

def rawAll : List Piece → List Char
  | [] => []
  | p :: ps => p.raw ++ rawAll ps
termination_by structural ps => ps

end

/-- The text up to the brace that closes the last of `depth` open ones, and the text behind it. -/
def closing? (depth : Nat) : List Char → Option (List Char × List Char)
  | [] => none
  | '{' :: rest => (closing? (depth + 1) rest).map fun (body, after) => ('{' :: body, after)
  | '}' :: rest =>
    match depth with
    | 0 | 1 => some ([], rest)
    | depth + 2 => (closing? (depth + 1) rest).map fun (body, after) => ('}' :: body, after)
  | c :: rest => (closing? depth rest).map fun (body, after) => (c :: body, after)

def isCaptureChar (c : Char) : Bool :=
  c ≠ '{' && c ≠ '}'

/-- The name of the capture at the start of a text, and the text behind it. A name has no braces and
is not empty. -/
def capture? (cs : List Char) : Option (List Char × List Char) :=
  match Text.after? ['$', '{', '>'] cs with
  | none => none
  | some rest =>
    match rest.takeWhile isCaptureChar, rest.dropWhile isCaptureChar with
    | c :: name, '}' :: after => some (c :: name, after)
    | _, _ => none

/-- The capture at the start of a text, if there is one, and the text behind it. -/
def takeCapture (cs : List Char) : Option (List Char) × List Char :=
  match capture? cs with
  | some (name, after) => (some name, after)
  | none => (none, cs)

theorem append_of_closing? {depth : Nat} {cs body after : List Char}
    (h : closing? depth cs = some (body, after)) : cs = body ++ '}' :: after := by
  fun_induction closing? depth cs generalizing body with
  | case1 => simp at h
  | case2 depth rest ih =>
    obtain ⟨⟨b, a⟩, hb, he⟩ := Option.map_eq_some_iff.1 h
    simp only [Prod.mk.injEq] at he
    obtain ⟨rfl, rfl⟩ := he
    simp [ih hb]
  | case3 => simp_all
  | case4 => simp_all
  | case5 rest depth ih =>
    obtain ⟨⟨b, a⟩, hb, he⟩ := Option.map_eq_some_iff.1 h
    simp only [Prod.mk.injEq] at he
    obtain ⟨rfl, rfl⟩ := he
    simp [ih hb]
  | case6 depth c rest _ _ ih =>
    obtain ⟨⟨b, a⟩, hb, he⟩ := Option.map_eq_some_iff.1 h
    simp only [Prod.mk.injEq] at he
    obtain ⟨rfl, rfl⟩ := he
    simp [ih hb]

theorem append_of_capture? {cs name after : List Char} (h : capture? cs = some (name, after)) :
    cs = '$' :: '{' :: '>' :: name ++ '}' :: after := by
  unfold capture? at h
  split at h
  · simp at h
  · next rest hr =>
    have hrest := List.takeWhile_append_dropWhile (p := isCaptureChar) (l := rest)
    rw [Text.append_of_after? hr]
    split at h
    · next c n a hn ha =>
      simp only [Option.some.injEq, Prod.mk.injEq] at h
      obtain ⟨rfl, rfl⟩ := h
      rw [hn, ha] at hrest
      simp [← hrest]
    · simp at h

theorem rawCapture_takeCapture (cs : List Char) :
    rawCapture (takeCapture cs).1 ++ (takeCapture cs).2 = cs := by
  unfold takeCapture
  split
  · next name after h => simp [rawCapture, append_of_capture? h]
  · simp [rawCapture]

theorem length_takeCapture_le (cs : List Char) : (takeCapture cs).2.length ≤ cs.length := by
  conv => rhs; rw [← rawCapture_takeCapture cs]
  simp

/-- The pieces of a text. Without a balancing brace the rest of the text stands for itself. -/
def read : List Char → List Piece
  | [] => []
  | '$' :: '{' :: rest =>
    match h : closing? 1 rest with
    | none => ('$' :: '{' :: rest).map .char
    | some (body, after) =>
      have hlen : rest.length = body.length + after.length + 1 := by
        simp [append_of_closing? h, Nat.add_assoc]
      have := length_takeCapture_le after
      .reference (read body) (takeCapture after).1 :: read (takeCapture after).2
  | c :: rest => .char c :: read rest
termination_by cs => cs.length
decreasing_by all_goals (simp only [List.length_cons]; omega)

theorem rawAll_map_char (cs : List Char) : rawAll (cs.map .char) = cs := by
  induction cs with
  | nil => rfl
  | cons c cs ih => simp [rawAll, raw, ih]

/-- Reading a template loses nothing. -/
theorem rawAll_read (cs : List Char) : rawAll (read cs) = cs := by
  fun_induction read cs with
  | case1 => rfl
  | case2 rest _ => exact rawAll_map_char _
  | case3 rest body after h _ _ ihb iha =>
    simp only [rawAll, raw, ihb, iha, List.cons_append, List.append_assoc,
      rawCapture_takeCapture]
    rw [append_of_closing? h]
  | case4 c rest _ ih => simp [rawAll, raw, ih]

end Piece

end PromptTree.Template
