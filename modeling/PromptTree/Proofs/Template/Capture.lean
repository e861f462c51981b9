import PromptTree.Proofs.Scope.Names
import PromptTree.Proofs.Template.Cut

/-!
Templates with captures. Their tokens are evaluated from left to right, and what a token binds is
in force for all that come after it. A reference that stands before the binding of its name is left
over by the first pass, and the second one finds the bindings of the whole text. Main statement:
three passes bring every such template to its value (`resolve_captures`). A capture needs a name:
without one it is left in the text (`not_capture_without_name`).
-/

namespace PromptTree.Template

variable {β : Type}

/-! ### Tokens -/

abbrev Unmarked := { text : List Char // '$' ∉ text }

/-- What can stand where a name is asked for: a name, or nothing. -/
abbrev Label := { name : List Char // name = [] ∨ IsName name }

abbrev Argument :=
  { text : List Char // ∀ c ∈ text, c ≠ '$' ∧ c ≠ '{' ∧ c ≠ '}' ∧ c ≠ '|' }

/-- A part of a template with captures. The last one is a capture without a name, which is none. -/
inductive Token where
  | literal (text : Unmarked)
  | reference (label : Label)
  | captured (label : Label) (target : Name)
  | tee (target : Label) (args : List Argument)
  | dangling

def braced (body : List Char) : List Char :=
  '$' :: '{' :: (body ++ ['}'])

namespace Label

variable (label : Label)

theorem plain : ∀ c ∈ label.1, c ≠ '$' ∧ c ≠ '{' ∧ c ≠ '}' ∧ c ≠ '|' := by
  obtain ⟨name, rfl | isName⟩ := label
  · simp
  · exact isName.plain

theorem noFunction : label.1.head? ≠ some '@' := by
  obtain ⟨name, rfl | isName⟩ := label
  · simp
  · exact isName.noFunction

theorem noCapture : label.1.head? ≠ some '>' := by
  obtain ⟨name, rfl | isName⟩ := label
  · simp
  · exact isName.noCapture

end Label

namespace Token

def teeBody (target : Label) (args : List Argument) : List Char :=
  Text.joinWith '|' ("@tee".toList :: target.1 :: args.map Subtype.val)

def write : Token → List Char
  | .literal text => text.1
  | .reference label => braced label.1
  | .captured label target => braced label.1 ++ braced ('>' :: target.1)
  | .tee target args => braced (teeBody target args)
  | .dangling => braced ['>']

def writeAll (tokens : List Token) : List Char :=
  tokens.flatMap write

def pieces : Token → List Piece
  | .literal text => text.1.map .char
  | .reference label => [.reference (label.1.map .char) none]
  | .captured label target => [.reference (label.1.map .char) (some target.1)]
  | .tee target args => [.reference ((teeBody target args).map .char) none]
  | .dangling => [.reference [.char '>'] none]

def piecesAll (tokens : List Token) : List Piece :=
  tokens.flatMap pieces

/-! ### Reading what is written -/

theorem parts_teeBody (target : Label) (args : List Argument) :
    ∀ part ∈ "@tee".toList :: target.1 :: args.map Subtype.val,
      ∀ c ∈ part, c ≠ '$' ∧ c ≠ '{' ∧ c ≠ '}' ∧ c ≠ '|' := by
  intro part isPart
  rw [List.mem_cons, List.mem_cons, List.mem_map] at isPart
  rcases isPart with rfl | rfl | ⟨arg, _, rfl⟩
  · simp
  · exact target.plain
  · exact arg.2

theorem ofBody_teeBody (target : Label) (args : List Argument) :
    Command.ofBody (teeBody target args) =
      .tee target.1 (Text.joinWith '|' (args.map Subtype.val)) := by
  have split : Text.splitOn '|' (teeBody target args) =
      "@tee".toList :: target.1 :: args.map Subtype.val := by
    apply Text.splitOn_joinWith (List.cons_ne_nil _ _)
    intro part isPart isBar
    exact (parts_teeBody target args part isPart _ isBar).2.2.2 rfl
  unfold Command.ofBody
  rw [split]
  dsimp only
  rw [if_neg (by decide), if_pos rfl]
  rfl

theorem flat_teeBody (target : Label) (args : List Argument) :
    ∀ c ∈ teeBody target args, c ≠ '$' ∧ c ≠ '{' ∧ c ≠ '}' := by
  intro c isChar
  rcases Text.mem_joinWith isChar with rfl | ⟨part, isPart, isChar⟩
  · decide
  · obtain ⟨noMark, noOpening, noClosing, _⟩ := parts_teeBody target args part isPart c isChar
    exact ⟨noMark, noOpening, noClosing⟩

theorem flat_label (label : Label) : ∀ c ∈ label.1, c ≠ '$' ∧ c ≠ '{' ∧ c ≠ '}' := by
  intro c isChar
  obtain ⟨noMark, noOpening, noClosing, _⟩ := label.plain c isChar
  exact ⟨noMark, noOpening, noClosing⟩

theorem read_braced {body : List Char} (flat : ∀ c ∈ body, c ≠ '$' ∧ c ≠ '{' ∧ c ≠ '}')
    (rest : List Char) :
    Piece.read (braced body ++ rest) =
      .reference (body.map .char) (Piece.takeCapture rest).1 ::
        Piece.read (Piece.takeCapture rest).2 := by
  rw [braced, List.cons_append, List.cons_append, List.append_assoc, List.singleton_append,
    read_of_flat flat]

theorem takeCapture_braced (target : Name) (rest : List Char) :
    Piece.takeCapture (braced ('>' :: target.1) ++ rest) = (some target.1, rest) := by
  have captures : CapturesAt (braced ('>' :: target.1) ++ rest) target.1 rest := by
    refine ⟨by simp [braced], target.2.nonempty, ?_⟩
    intro c isChar
    obtain ⟨_, noOpening, noClosing, _⟩ := target.2.plain c isChar
    exact ⟨noOpening, noClosing⟩
  exact takeCapture_eq_iff.mpr captures

theorem capture?_braced {body : List Char} (noCapture : body.head? ≠ some '>') (rest : List Char) :
    Piece.capture? (braced body ++ rest) = none := by
  rw [braced, List.cons_append, List.cons_append, List.append_assoc, List.singleton_append,
    capture?_of_noCapture noCapture]

theorem capture?_writeAll (tokens : List Token) : Piece.capture? (writeAll tokens) = none := by
  induction tokens with
  | nil => rfl
  | cons token tokens inductionHypothesis =>
    rw [writeAll, List.flatMap_cons, ← writeAll]
    cases token with
    | literal text =>
      obtain ⟨text, unmarked⟩ := text
      cases text with
      | nil => exact inductionHypothesis
      | cons c text =>
        rw [List.mem_cons, not_or] at unmarked
        exact capture?_of_ne (Ne.symm unmarked.1) _
    | reference label => exact capture?_braced label.noCapture _
    | captured label target =>
      rw [write, List.append_assoc]
      exact capture?_braced label.noCapture _
    | tee target args => exact capture?_braced (by simp [teeBody, Text.joinWith]) _
    | dangling => rfl

theorem read_write (token : Token) {rest : List Char} (noCapture : Piece.capture? rest = none) :
    Piece.read (token.write ++ rest) = token.pieces ++ Piece.read rest := by
  cases token with
  | literal text => exact read_append_of_unmarked text.2 rest
  | reference label =>
    rw [write, read_braced (flat_label label), takeCapture_of_none noCapture]
    rfl
  | captured label target =>
    rw [write, List.append_assoc, read_braced (flat_label label), takeCapture_braced]
    rfl
  | tee target args =>
    rw [write, read_braced (flat_teeBody target args), takeCapture_of_none noCapture]
    rfl
  | dangling =>
    rw [write, read_braced (by simp), takeCapture_of_none noCapture]
    rfl

theorem read_writeAll (tokens : List Token) : Piece.read (writeAll tokens) = piecesAll tokens := by
  induction tokens with
  | nil => simp [writeAll, piecesAll, Piece.read]
  | cons token tokens inductionHypothesis =>
    have unglued := read_write token (capture?_writeAll tokens)
    rw [inductionHypothesis] at unglued
    exact unglued

end Token

/-! ### What tokens come to -/

/-- Names with texts that hold no mark of a reference. -/
structure Bindings where
  scope : Scope
  unmarked : ∀ entry ∈ scope.entries, '$' ∉ entry.2.toList

namespace Bindings

variable (bindings : Bindings)

def get? (name : String) : Option Unmarked :=
  match found : bindings.scope.get? name with
  | none => none
  | some text =>
    some ⟨text.toList, bindings.unmarked (name, text) (Scope.get?_eq_some_iff.mp found)⟩

def write (name : String) (text : Unmarked) : Bindings where
  scope := bindings.scope.write name (.ofList text.1)
  unmarked := by
    intro entry isEntry
    rw [← Scope.get?_eq_some_iff, Scope.get?_write] at isEntry
    split at isEntry
    · rw [← Option.some.inj isEntry, String.toList_ofList]
      exact text.2
    · exact bindings.unmarked entry (Scope.get?_eq_some_iff.mp isEntry)

theorem map_get? (name : String) :
    (bindings.get? name).map Subtype.val = (bindings.scope.get? name).map String.toList := by
  unfold get?
  split <;> simp [*]

theorem get?_eq_none_iff {name : String} :
    bindings.get? name = none ↔ name ∉ bindings.scope.names := by
  have sameText := bindings.map_get? name
  rw [← Scope.get?_eq_none_iff]
  constructor
  · intro absent
    rwa [absent, Option.map_none, eq_comm, Option.map_eq_none_iff] at sameText
  · intro absent
    rwa [absent, Option.map_none, Option.map_eq_none_iff] at sameText

end Bindings

namespace Token

def text? (now : Bindings) : Token → Option Unmarked
  | .literal text => some text
  | .reference label | .captured label _ => now.get? (.ofList label.1)
  | .tee _ args => some ⟨Text.joinWith '|' (args.map Subtype.val), by
      intro isMark
      rcases Text.mem_joinWith isMark with isBar | ⟨part, isPart, isMark⟩
      · cases isBar
      · obtain ⟨arg, _, rfl⟩ := List.mem_map.mp isPart
        exact (arg.2 _ isMark).1 rfl⟩
  | .dangling => none

def target? : Token → Option String
  | .captured _ target => some (.ofList target.1)
  | .tee target _ => some (.ofList target.1)
  | .literal _ | .reference _ | .dangling => none

def after (now : Bindings) (token : Token) : Bindings :=
  match token.target?, token.text? now with
  | some target, some text => now.write target text
  | _, _ => now

def final (now : Bindings) (tokens : List Token) : Bindings :=
  tokens.foldl after now

/-- What a token comes to: its text where it stands, else the one that it has in the end, else how
it is written. -/
def value (last now : Bindings) (token : Token) : List Char :=
  match token.text? now, token.text? last with
  | some text, _ => text.1
  | none, some text => text.1
  | none, none => token.write

def valueAll (last : Bindings) : (now : Bindings) → List Token → List Char
  | _, [] => []
  | now, token :: tokens => token.value last now ++ valueAll last (token.after now) tokens

def source? : Token → Option String
  | .captured label _ => some (.ofList label.1)
  | .literal _ | .reference _ | .tee _ _ | .dangling => none

/-- Each name whose text is captured is known, or bound by a token before. -/
def areSupplied (known : List String) : List Token → Bool
  | [] => true
  | token :: tokens =>
    token.source?.all (· ∈ known) && areSupplied (token.target?.toList ++ known) tokens

/-! ### One pass -/

def settled (now : Bindings) (token : Token) : Token :=
  match token.text? now with
  | some text => .literal text
  | none => token

theorem settled_of_text? {now : Bindings} {token : Token} {text : Unmarked}
    (found : token.text? now = some text) : token.settled now = .literal text := by
  rw [settled, found]

theorem settled_of_absent {now : Bindings} {token : Token} (absent : token.text? now = none) :
    token.settled now = token := by
  rw [settled, absent]

theorem settled_literal (now : Bindings) (text : Unmarked) :
    settled now (.literal text) = .literal text := rfl

def settledAll : (now : Bindings) → List Token → List Token
  | _, [] => []
  | now, token :: tokens => token.settled now :: settledAll (token.after now) tokens

def SourceBound (now : Bindings) (token : Token) : Prop :=
  ∀ name, token.source? = some name → name ∈ now.scope.names

section

variable (sources : Sources β) {now : Bindings} {r : Resolution β}

/-- A token that binds a name has a text to bind, if its source is bound. -/
theorem exists_text? {token : Token} (supplied : token.SourceBound now)
    {target : String} (binds : token.target? = some target) :
    ∃ text, token.text? now = some text := by
  cases token with
  | captured label _ =>
    rw [← Option.ne_none_iff_exists']
    intro absent
    exact now.get?_eq_none_iff.mp absent (supplied _ rfl)
  | tee _ args => exact ⟨_, rfl⟩
  | literal _ | reference _ | dangling => cases binds

theorem names_after {token : Token} (supplied : token.SourceBound now)
    {known : List String} (within : known ⊆ now.scope.names) :
    token.target?.toList ++ known ⊆ (token.after now).scope.names := by
  cases binds : token.target? with
  | none => simpa [after, binds] using within
  | some target =>
    obtain ⟨text, found⟩ := exists_text? supplied binds
    rw [after, binds, found]
    apply List.cons_subset.mpr
    constructor
    · exact Scope.mem_names_write _ _ _
    · exact List.Subset.trans within (Scope.names_prefix_write _ _ _).subset

theorem supplied_cons {token : Token} {tokens : List Token} {known : List String}
    (supplied : areSupplied known (token :: tokens) = true) (within : known ⊆ now.scope.names) :
    token.SourceBound now ∧ areSupplied (token.target?.toList ++ known) tokens = true := by
  rw [areSupplied, Bool.and_eq_true, Option.all_eq_true] at supplied
  refine ⟨?_, supplied.2⟩
  intro name isSource
  exact within (by simpa using supplied.1 name isSource)

theorem result_label (label : Label) (capture : Option (List Char))
    (bound : r.bindings = now.scope) :
    let raw := (Piece.reference (label.1.map .char) capture).raw
    let value := ((now.get? (.ofList label.1)).map Subtype.val).getD raw
    ∃ s, result (Piece.evalAll sources [.reference (label.1.map .char) capture]) r =
        (.ok value, s) ∧
      s.bindings = afterCapture now.scope capture value := by
  have noBar : '|' ∉ label.1 := fun isBar => (label.plain _ isBar).2.2.2 rfl
  rw [now.map_get?, ← bound]
  exact result_lookup_reference sources (ofBody_of_noFunction noBar label.noFunction)
    label.noCapture capture r

theorem result_perform_tee (raw name value : List Char) :
    ∃ s, result (Resolving.perform sources raw (.tee name value)) r = (.ok value, s) ∧
      s.bindings = r.bindings.write (.ofList name) (.ofList value) :=
  ⟨_, rfl, rfl⟩

theorem result_pieces {token : Token} (supplied : token.SourceBound now)
    (bound : r.bindings = now.scope) :
    ∃ s, result (Piece.evalAll sources token.pieces) r = (.ok (token.settled now).write, s) ∧
      s.bindings = (token.after now).scope := by
  cases token with
  | literal text => exact ⟨r, result_evalAll_map_char sources text.1 r, bound⟩
  | reference label =>
    obtain ⟨s, ended, same⟩ := result_label sources label none bound
    have raw : (Piece.reference (label.1.map .char) none).raw = write (.reference label) := by
      simp [Piece.raw, Piece.rawAll_map_char, Piece.rawCapture, write, braced]
    refine ⟨s, ?_, same⟩
    rw [pieces, ended, raw]
    cases found : now.get? (.ofList label.1) <;> simp [settled, text?, found, write]
  | captured label target =>
    obtain ⟨s, ended, same⟩ := result_label sources label (some target.1) bound
    obtain ⟨text, found⟩ := exists_text? supplied rfl
    have get : now.get? (.ofList label.1) = some text := found
    rw [get] at ended same
    refine ⟨s, ?_, ?_⟩
    · rw [pieces, ended, settled, found]
      rfl
    · rw [same, after, found]
      rfl
  | tee target args =>
    have noCapture : ¬ (Piece.rawAll ((teeBody target args).map .char)).head? = some '>' := by
      rw [Piece.rawAll_map_char]
      simp [teeBody, Text.joinWith]
    obtain ⟨s, performed, bindings⟩ := result_perform_tee sources (r := r)
      (Piece.reference ((teeBody target args).map .char) none).raw target.1
      (Text.joinWith '|' (args.map Subtype.val))
    rw [← ofBody_teeBody] at performed
    obtain ⟨t, ended, same⟩ := result_eval_reference sources noCapture
      (result_evalAll_map_char sources (teeBody target args) r) performed
    refine ⟨t, ended, same.trans (bindings.trans ?_)⟩
    rw [bound]
    rfl
  | dangling => exact ⟨r, rfl, bound⟩

/-- One pass puts the texts of tokens in their places, and leaves the bindings after them. -/
theorem result_piecesAll {tokens : List Token} {known : List String}
    (supplied : areSupplied known tokens = true) (within : known ⊆ now.scope.names)
    (bound : r.bindings = now.scope) :
    ∃ s, result (Piece.evalAll sources (piecesAll tokens)) r =
        (.ok (writeAll (settledAll now tokens)), s) ∧
      s.bindings = (final now tokens).scope := by
  induction tokens generalizing known now r with
  | nil => exact ⟨r, rfl, bound⟩
  | cons token tokens inductionHypothesis =>
    obtain ⟨firstSupplied, restSupplied⟩ := supplied_cons supplied within
    obtain ⟨s, firstEnded, firstBound⟩ := result_pieces sources firstSupplied bound
    obtain ⟨t, restEnded, restBound⟩ :=
      inductionHypothesis restSupplied (names_after firstSupplied within) firstBound
    exact ⟨t, result_evalAll_append sources firstEnded restEnded, restBound⟩

theorem result_pass_writeAll {tokens : List Token} {known : List String}
    (supplied : areSupplied known tokens = true) (within : known ⊆ now.scope.names)
    (bound : r.bindings = now.scope) :
    ∃ s, result (pass sources (writeAll tokens)) r = (.ok (writeAll (settledAll now tokens)), s) ∧
      s.bindings = (final now tokens).scope := by
  unfold pass
  rw [read_writeAll]
  exact result_piecesAll sources supplied within bound

end

/-! ### The passes after the first -/

section

variable {now : Bindings}

theorem after_of_target?_eq_none {token : Token} (still : token.target? = none) :
    token.after now = now := by
  rw [after, still]

theorem target?_settled {token : Token} (supplied : token.SourceBound now) :
    (token.settled now).target? = none := by
  cases binds : token.target? with
  | some target =>
    obtain ⟨text, found⟩ := exists_text? supplied binds
    rw [settled, found, target?]
  | none =>
    rw [settled]
    split
    · rfl
    · exact binds

theorem target?_settledAll {tokens : List Token} {known : List String}
    (supplied : areSupplied known tokens = true) (within : known ⊆ now.scope.names) :
    ∀ token ∈ settledAll now tokens, token.target? = none := by
  induction tokens generalizing known now with
  | nil => simp [settledAll]
  | cons token tokens inductionHypothesis =>
    obtain ⟨firstSupplied, restSupplied⟩ := supplied_cons supplied within
    rw [settledAll, List.forall_mem_cons]
    constructor
    · exact target?_settled firstSupplied
    · exact inductionHypothesis restSupplied (names_after firstSupplied within)

/-- Tokens that bind nothing capture nothing. -/
theorem areSupplied_of_still {tokens : List Token} (still : ∀ token ∈ tokens, token.target? = none)
    (known : List String) : areSupplied known tokens = true := by
  induction tokens generalizing known with
  | nil => rfl
  | cons token tokens inductionHypothesis =>
    rw [List.forall_mem_cons] at still
    rw [areSupplied, inductionHypothesis still.2, Bool.and_true]
    cases token with
    | captured _ _ => cases still.1
    | literal _ | reference _ | tee _ _ | dangling => rfl

theorem final_of_still {tokens : List Token} (still : ∀ token ∈ tokens, token.target? = none) :
    final now tokens = now := by
  induction tokens with
  | nil => rfl
  | cons token tokens inductionHypothesis =>
    rw [List.forall_mem_cons] at still
    rw [final, List.foldl_cons, after_of_target?_eq_none still.1]
    exact inductionHypothesis still.2

theorem settledAll_of_still {tokens : List Token}
    (still : ∀ token ∈ tokens, token.target? = none) :
    settledAll now tokens = tokens.map (settled now) := by
  induction tokens with
  | nil => rfl
  | cons token tokens inductionHypothesis =>
    rw [List.forall_mem_cons] at still
    rw [settledAll, after_of_target?_eq_none still.1, inductionHypothesis still.2, List.map_cons]

theorem settled_settled (token : Token) : (token.settled now).settled now = token.settled now := by
  cases found : token.text? now with
  | none => rw [settled_of_absent found, settled_of_absent found]
  | some text => rw [settled_of_text? found, settled_literal]

theorem write_settled_settled (last : Bindings) (token : Token) :
    ((token.settled now).settled last).write = token.value last now := by
  rw [value]
  cases found : token.text? now with
  | some text =>
    rw [settled_of_text? found, settled_literal]
    rfl
  | none =>
    rw [settled_of_absent found]
    cases foundLast : token.text? last with
    | some text => rw [settled_of_text? foundLast, write]
    | none => rw [settled_of_absent foundLast]

theorem writeAll_settledAll_settled (last : Bindings) (tokens : List Token) :
    writeAll ((settledAll now tokens).map (settled last)) = valueAll last now tokens := by
  induction tokens generalizing now with
  | nil => rfl
  | cons token tokens inductionHypothesis =>
    rw [settledAll, List.map_cons, writeAll, List.flatMap_cons, ← writeAll, inductionHypothesis,
      write_settled_settled, valueAll]

/-- A pass that changes a token leaves fewer marks of references in it. -/
theorem count_settled (now : Bindings) (token : Token) :
    token.settled now = token ∧ token.after now = now ∨
      (token.settled now).write.count '$' < token.write.count '$' := by
  cases found : token.text? now with
  | none =>
    left
    constructor
    · exact settled_of_absent found
    · rw [after, found]
      split
      · contradiction
      · rfl
  | some text =>
    rw [settled_of_text? found, write, List.count_eq_zero_of_not_mem text.2]
    cases token with
    | literal _ =>
      left
      cases found
      exact ⟨rfl, rfl⟩
    | dangling => cases found
    | reference _ | captured _ _ | tee _ _ =>
      right
      simp [write, braced]

theorem count_settledAll (now : Bindings) (tokens : List Token) :
    settledAll now tokens = tokens ∧ final now tokens = now ∨
      (writeAll (settledAll now tokens)).count '$' < (writeAll tokens).count '$' := by
  induction tokens generalizing now with
  | nil => exact .inl ⟨rfl, rfl⟩
  | cons token tokens inductionHypothesis =>
    have counted (token : Token) (tokens : List Token) :
        (writeAll (token :: tokens)).count '$' =
          token.write.count '$' + (writeAll tokens).count '$' := by
      rw [writeAll, List.flatMap_cons, List.count_append, writeAll]
    rw [settledAll, counted, counted]
    rcases count_settled now token with ⟨same, sameBindings⟩ | fewer
    · rw [same, final, List.foldl_cons, sameBindings]
      rcases inductionHypothesis now with ⟨sameRest, sameLast⟩ | fewer
      · left
        exact ⟨by rw [sameRest], sameLast⟩
      · right
        omega
    · right
      rcases inductionHypothesis (token.after now) with ⟨sameRest, _⟩ | fewerRest
      · rw [sameRest]
        omega
      · omega

end

section

variable (sources : Sources β) {now : Bindings} {r : Resolution β}

theorem result_pass_of_still {tokens : List Token} (still : ∀ token ∈ tokens, token.target? = none)
    (bound : r.bindings = now.scope) :
    ∃ s, result (pass sources (writeAll tokens)) r =
        (.ok (writeAll (tokens.map (settled now))), s) ∧ s.bindings = now.scope := by
  have passed :=
    result_pass_writeAll sources (areSupplied_of_still still []) (List.nil_subset _) bound
  rwa [settledAll_of_still still, final_of_still still] at passed

theorem result_settle_of_still {tokens : List Token}
    (still : ∀ token ∈ tokens, token.target? = none) (bound : r.bindings = now.scope) (more : Nat) :
    ∃ s, result (settle sources (more + 2) (writeAll tokens)) r =
      (.ok (some (writeAll (tokens.map (settled now)))), s) := by
  obtain ⟨s, passed, sameBindings⟩ := result_pass_of_still sources still bound
  have stillSettled : ∀ token ∈ tokens.map (settled now), token.target? = none := by
    rw [← settledAll_of_still still]
    exact target?_settledAll (areSupplied_of_still still []) (List.nil_subset _)
  have same : (tokens.map (settled now)).map (settled now) = tokens.map (settled now) := by
    rw [List.map_map]
    exact List.map_congr_left fun token _ => settled_settled token
  obtain ⟨t, passedAgain, _⟩ := result_pass_of_still sources stillSettled sameBindings
  rw [same] at passedAgain
  exact result_settle_of_two_passes sources passed passedAgain more

/-- Three passes bring tokens to their values. -/
theorem result_settle_writeAll {tokens : List Token}
    (supplied : areSupplied now.scope.names tokens = true) (bound : r.bindings = now.scope)
    (more : Nat) :
    ∃ s, result (settle sources (more + 3) (writeAll tokens)) r =
      (.ok (some (valueAll (final now tokens) now tokens)), s) := by
  have still := target?_settledAll supplied (List.Subset.refl _)
  obtain ⟨s, passed, sameBindings⟩ :=
    result_pass_writeAll sources supplied (List.Subset.refl _) bound
  rw [settle, result_bind_of_ok passed]
  by_cases unchanged : writeAll (settledAll now tokens) = writeAll tokens
  · -- An unchanged text has as many marks as before, so no token was replaced and nothing was bound.
    have same : settledAll now tokens = tokens ∧ final now tokens = now := by
      apply (count_settledAll now tokens).resolve_right
      rw [unchanged]
      exact Nat.lt_irrefl _
    rw [same.1] at still
    rw [if_pos unchanged, ← writeAll_settledAll_settled, same.2, same.1,
      ← settledAll_of_still still, same.1]
    exact ⟨s, rfl⟩
  · rw [if_neg unchanged, ← writeAll_settledAll_settled]
    exact result_settle_of_still sources still sameBindings more

end

end Token

open Token in
/-- A template with captures is resolved to the values of its tokens, from left to right. -/
theorem resolve_captures (sources : Sources β) (bindings : Bindings) {tokens : List Token}
    (supplied : areSupplied bindings.scope.names tokens = true) {passes : Int}
    (enough : 3 ≤ passes) (b : β) :
    (resolve sources passes (String.ofList (writeAll tokens)) bindings.scope b).outcome =
      .ok (String.ofList (valueAll (final bindings tokens) bindings tokens)) := by
  obtain ⟨more, isPasses⟩ : ∃ more, passes.toNat = more + 3 := ⟨passes.toNat - 3, by omega⟩
  let start : Resolution β := ⟨bindings.scope, [], b⟩
  have bound : start.bindings = bindings.scope := rfl
  obtain ⟨s, ended⟩ := result_settle_writeAll sources supplied bound more
  rw [outcome_resolve, String.toList_ofList, isPasses, ended]

/-- A farewell that is said before it is known, and a guest whose name is kept before it changes. -/
def farewell : List Token :=
  let label (name : List Char) (isName : IsName name) : Label := ⟨name, .inr isName⟩
  [.reference (label "end".toList (by decide)), .literal ⟨" to ".toList, by decide⟩,
    .captured (label "who".toList (by decide)) ⟨"first".toList, by decide⟩,
    .literal ⟨", now ".toList, by decide⟩,
    .tee (label "who".toList (by decide)) [⟨"Ann".toList, by simp⟩, ⟨"Bob".toList, by simp⟩],
    .literal ⟨": ".toList, by decide⟩,
    .tee (label "end".toList (by decide)) [⟨"bye".toList, by simp⟩],
    .literal ⟨" ".toList, by decide⟩, .reference (label "first".toList (by decide)),
    .literal ⟨" and ".toList, by decide⟩, .reference (label "who".toList (by decide)), .dangling,
    .reference (label "all".toList (by decide))]

theorem resolve_captures_farewell :
    let scope := Scope.ofPairs [("who", "Eve")]
    (Token.areSupplied scope.names farewell = true ∧ (3 : Int) ≤ 3) ∧
      Token.writeAll farewell =
        ("${end} to ${who}${>first}, now ${@tee|who|Ann|Bob}: " ++
          "${@tee|end|bye} ${first} and ${who}${>}${all}").toList ∧
      (resolve stillSources 3 (String.ofList (Token.writeAll farewell)) scope ()).outcome =
        .ok "bye to Eve, now Ann|Bob: bye Eve and Ann|Bob${>}${all}" := by
  intro scope
  let bindings : Bindings := ⟨scope, by decide⟩
  have supplied : Token.areSupplied bindings.scope.names farewell = true := by decide
  refine ⟨⟨supplied, by decide⟩, by decide, ?_⟩
  rw [resolve_captures stillSources bindings supplied (by decide) ()]
  decide +kernel

/-- A capture without a name captures nothing, and is left in the text. -/
theorem not_capture_without_name :
    let scope := Scope.ofPairs [("x", "1")]
    (resolve stillSources 3 "${x}${>}" scope ()).outcome = .ok "1${>}" ∧
      (resolve stillSources 3 "${x}${>}" scope ()).outcome ≠ .ok "1" := by
  decide +kernel

end PromptTree.Template
