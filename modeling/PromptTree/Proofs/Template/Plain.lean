import PromptTree.Template.Piece

/-!
Plain templates: literals without the mark of a reference, and references to names. Main statement:
the pieces of a plain template are those of its fragments, so no reference is glued together from
two of them or split (`read_write`).
-/

namespace PromptTree.Template

/-- The characters can be the name in a plain reference: there are some, none of them means anything
in a template, and they do not begin as a built-in function or a capture does. -/
structure IsName (name : List Char) : Prop where
  nonempty : name ≠ []
  plain : ∀ c ∈ name, c ≠ '$' ∧ c ≠ '\x7b' ∧ c ≠ '\x7d' ∧ c ≠ '|'
  noFunction : name.head? ≠ some '@'
  noCapture : name.head? ≠ some '>'

instance (name : List Char) : Decidable (IsName name) :=
  decidable_of_iff
    (name ≠ [] ∧ (name.all fun c => c ≠ '$' && c ≠ '\x7b' && c ≠ '\x7d' && c ≠ '|') = true ∧
      name.head? ≠ some '@' ∧ name.head? ≠ some '>') <| by
    simp only [List.all_eq_true, Bool.and_eq_true, decide_eq_true_eq, and_assoc]
    constructor
    · rintro ⟨nonempty, plain, noFunction, noCapture⟩
      exact ⟨nonempty, plain, noFunction, noCapture⟩
    · rintro ⟨nonempty, plain, noFunction, noCapture⟩
      exact ⟨nonempty, plain, noFunction, noCapture⟩

abbrev Name := { name : List Char // IsName name }

inductive Fragment where
  | literal (text : List Char) (unmarked : '$' ∉ text)
  | reference (name : Name)

abbrev Plain := List Fragment

def writeReference (name : Name) : List Char :=
  '$' :: '{' :: name.1 ++ ['}']

def Fragment.write : Fragment → List Char
  | .literal text _ => text
  | .reference name => writeReference name

def write (text : Plain) : List Char :=
  text.flatMap Fragment.write

def Fragment.name? : Fragment → Option Name
  | .literal _ _ => none
  | .reference name => some name

def references (text : Plain) : List Name :=
  text.filterMap Fragment.name?

def Fragment.pieces : Fragment → List Piece
  | .literal text _ => text.map .char
  | .reference name => [.reference (name.1.map .char) none]

def pieces (text : Plain) : List Piece :=
  text.flatMap Fragment.pieces

/-! ### Reading what is written -/

theorem read_append_of_unmarked {text : List Char} (unmarked : '$' ∉ text) (rest : List Char) :
    Piece.read (text ++ rest) = text.map .char ++ Piece.read rest := by
  induction text with
  | nil => rfl
  | cons c text inductionHypothesis =>
    rw [List.mem_cons, not_or] at unmarked
    rw [List.cons_append, Piece.read, inductionHypothesis unmarked.2]
    · rfl
    · intro _ isMark
      exact absurd isMark.symm unmarked.1

theorem read_of_unmarked {text : List Char} (unmarked : '$' ∉ text) :
    Piece.read text = text.map .char := by
  have whole := read_append_of_unmarked unmarked []
  rwa [List.append_nil, Piece.read, List.append_nil] at whole

theorem closing?_append_of_noBraces {text : List Char} (noBraces : ∀ c ∈ text, c ≠ '{' ∧ c ≠ '}')
    (depth : Nat) (rest : List Char) :
    Piece.closing? depth (text ++ rest) =
      (Piece.closing? depth rest).map fun (body, after) => (text ++ body, after) := by
  induction text with
  | nil => simp
  | cons c text inductionHypothesis =>
    rw [List.forall_mem_cons] at noBraces
    rw [List.cons_append, Piece.closing?, inductionHypothesis noBraces.2, Option.map_map]
    · rfl
    · exact noBraces.1.1
    · exact noBraces.1.2

theorem capture?_of_ne {c : Char} (noMark : c ≠ '$') (rest : List Char) :
    Piece.capture? (c :: rest) = none := by
  simp [Piece.capture?, Text.after?, Ne.symm noMark]

/-- A reference is no capture if its body does not begin as one does. -/
theorem capture?_of_noCapture {body : List Char} (noCapture : body.head? ≠ some '>')
    (rest : List Char) : Piece.capture? ('$' :: '{' :: (body ++ '}' :: rest)) = none := by
  have notAfter : Text.after? ['$', '{', '>'] ('$' :: '{' :: (body ++ '}' :: rest)) = none := by
    cases body with
    | nil => rfl
    | cons c body =>
      have differs : ¬ '>' = c := by
        rintro rfl
        exact noCapture rfl
      simp [Text.after?, differs]
  unfold Piece.capture?
  rw [notAfter]

theorem takeCapture_of_none {cs : List Char} (noCapture : Piece.capture? cs = none) :
    Piece.takeCapture cs = (none, cs) := by
  unfold Piece.takeCapture
  rw [noCapture]

/-- The body of a reference reaches to the brace that balances its first one. -/
theorem read_of_closing {body rest : List Char}
    (closed : Piece.closing? 1 (body ++ '}' :: rest) = some (body, rest)) :
    Piece.read ('$' :: '{' :: (body ++ '}' :: rest)) =
      .reference (Piece.read body) (Piece.takeCapture rest).1 ::
        Piece.read (Piece.takeCapture rest).2 := by
  rw [Piece.read]
  split
  · next unclosed =>
    rw [closed] at unclosed
    cases unclosed
  · next found =>
    rw [closed] at found
    cases found
    rfl

theorem read_of_flat {body : List Char} (flat : ∀ c ∈ body, c ≠ '$' ∧ c ≠ '{' ∧ c ≠ '}')
    (rest : List Char) :
    Piece.read ('$' :: '{' :: (body ++ '}' :: rest)) =
      .reference (body.map .char) (Piece.takeCapture rest).1 ::
        Piece.read (Piece.takeCapture rest).2 := by
  have closed : Piece.closing? 1 (body ++ '}' :: rest) = some (body, rest) := by
    rw [closing?_append_of_noBraces fun c isChar => (flat c isChar).2]
    simp [Piece.closing?]
  have unmarked : '$' ∉ body := fun isChar => (flat _ isChar).1 rfl
  rw [read_of_closing closed, read_of_unmarked unmarked]

theorem capture?_write (text : Plain) : Piece.capture? (write text) = none := by
  induction text with
  | nil => rfl
  | cons fragment text inductionHypothesis =>
    rw [write, List.flatMap_cons, ← write]
    cases fragment with
    | literal literal unmarked =>
      cases literal with
      | nil => exact inductionHypothesis
      | cons c literal =>
        rw [List.mem_cons, not_or] at unmarked
        exact capture?_of_ne (Ne.symm unmarked.1) _
    | reference name =>
      have found := capture?_of_noCapture name.2.noCapture (write text)
      simpa [Fragment.write, writeReference] using found

theorem read_writeReference (name : Name) {rest : List Char}
    (noCapture : Piece.capture? rest = none) :
    Piece.read (writeReference name ++ rest) =
      .reference (name.1.map .char) none :: Piece.read rest := by
  have flat : ∀ c ∈ name.1, c ≠ '$' ∧ c ≠ '{' ∧ c ≠ '}' := by
    intro c isChar
    obtain ⟨noMark, noOpening, noClosing, _⟩ := name.2.plain c isChar
    exact ⟨noMark, noOpening, noClosing⟩
  change Piece.read ('$' :: '{' :: (name.1 ++ ['}'] ++ rest)) = _
  rw [List.append_assoc, List.singleton_append, read_of_flat flat, takeCapture_of_none noCapture]

/-- The pieces of a plain template, once it is written, are those of its fragments. -/
theorem read_write (text : Plain) : Piece.read (write text) = pieces text := by
  induction text with
  | nil => rw [write, List.flatMap_nil, Piece.read, pieces, List.flatMap_nil]
  | cons fragment text inductionHypothesis =>
    cases fragment with
    | literal literal unmarked =>
      have unglued := read_append_of_unmarked unmarked (write text)
      rw [inductionHypothesis] at unglued
      exact unglued
    | reference name =>
      have unglued := read_writeReference name (capture?_write text)
      rw [inductionHypothesis] at unglued
      exact unglued

/-- The name in a piece that is a reference, as it is written. -/
def referenceName? : Piece → Option (List Char)
  | .char _ => none
  | .reference body _ => some (Piece.rawAll body)

theorem filterMap_pieces (text : Plain) :
    (pieces text).filterMap referenceName? = (references text).map Subtype.val := by
  induction text with
  | nil => rfl
  | cons fragment text inductionHypothesis =>
    rw [pieces, List.flatMap_cons, List.filterMap_append, ← pieces, inductionHypothesis]
    cases fragment with
    | literal literal unmarked =>
      have noReference : (literal.map Piece.char).filterMap referenceName? = [] := by
        simp [referenceName?]
      rw [Fragment.pieces, noReference]
      rfl
    | reference name =>
      simp [Fragment.pieces, referenceName?, Piece.rawAll_map_char, references, Fragment.name?]

/-- Plain templates that are written in the same way refer to the same names. -/
theorem references_eq_of_write_eq {first second : Plain} (same : write first = write second) :
    references first = references second := by
  have samePieces : pieces first = pieces second := by
    rw [← read_write, ← read_write, same]
  have sameNames := congrArg (List.filterMap referenceName?) samePieces
  rw [filterMap_pieces, filterMap_pieces] at sameNames
  exact (List.map_inj_right fun _ _ => Subtype.ext).mp sameNames

end PromptTree.Template
