import Mathlib.Order.Bounds.Basic
import PromptTree.Proofs.Template.Expansion
import PromptTree.Proofs.Text.Classes

/-!
Texts cut at their references. A reference stands at the first mark behind the one before, reaches to
the first brace that balances its own, and takes a capture along that follows at once; the cut of a text
is the only one that keeps to this (`isCut_iff`). Main statement: a pass goes through the cut from left
to right and puts the values of the references between the literal stretches (`pass_tokens`).
-/

namespace PromptTree.Template

/-! ### The closing brace -/

/-- The text up to the character at `i`, and with it, closes as many braces as it opens and `depth`
more. -/
def Closes (depth : Nat) (cs : List Char) (i : Nat) : Prop :=
  i < cs.length ∧ (cs.take (i + 1)).count '}' = (cs.take (i + 1)).count '{' + depth

section

variable {depth i : Nat} {c : Char} {cs : List Char}

theorem closes_zero_iff : Closes (depth + 1) (c :: cs) 0 ↔ c = '}' ∧ depth = 0 := by
  by_cases isOpening : c = '{'
  · subst isOpening
    simp [Closes]
  · by_cases isClosing : c = '}'
    · subst isClosing
      simp [Closes, eq_comm]
    · simp [Closes, isClosing, isOpening]

theorem closes_opening_succ_iff : Closes depth ('{' :: cs) (i + 1) ↔ Closes (depth + 1) cs i := by
  simp [Closes, Nat.add_assoc, Nat.add_comm 1 depth]

theorem closes_closing_succ_iff : Closes (depth + 1) ('}' :: cs) (i + 1) ↔ Closes depth cs i := by
  simp [Closes, ← Nat.add_assoc]

theorem closes_other_succ_iff (noOpening : c ≠ '{') (noClosing : c ≠ '}') :
    Closes depth (c :: cs) (i + 1) ↔ Closes depth cs i := by
  simp [Closes, noOpening, noClosing]

end

/-- What holds first at `n` holds first at `n + 1` one place further on. -/
theorem isLeast_succ {p q : Nat → Prop} (notFirst : ¬ q 0) (shifted : ∀ i, q (i + 1) ↔ p i) {n : Nat}
    (least : IsLeast { i | p i } n) : IsLeast { i | q i } (n + 1) := by
  refine ⟨(shifted n).mpr least.1, ?_⟩
  rintro (_ | i) holds
  · exact absurd holds notFirst
  · exact Nat.succ_le_succ (least.2 ((shifted i).mp holds))

/-- What a search for the closing brace has found: the text before the first one that closes, and the
text behind it. -/
def FindsClosing (depth : Nat) (cs : List Char) : Option (List Char × List Char) → Prop
  | some (body, after) => cs = body ++ '}' :: after ∧ IsLeast { i | Closes depth cs i } body.length
  | none => ∀ i, ¬ Closes depth cs i

theorem FindsClosing.cons {depth behind : Nat} {c : Char} {cs : List Char}
    {found : Option (List Char × List Char)} (finds : FindsClosing behind cs found)
    (notFirst : ¬ Closes depth (c :: cs) 0)
    (shifted : ∀ i, Closes depth (c :: cs) (i + 1) ↔ Closes behind cs i) :
    FindsClosing depth (c :: cs) (found.map fun (body, after) => (c :: body, after)) := by
  cases found with
  | some found =>
    obtain ⟨rfl, least⟩ := finds
    exact ⟨rfl, isLeast_succ notFirst shifted least⟩
  | none =>
    rintro (_ | i) closes
    · exact notFirst closes
    · exact finds i ((shifted i).mp closes)

theorem findsClosing_closing? (depth : Nat) (cs : List Char) :
    FindsClosing (depth + 1) cs (Piece.closing? (depth + 1) cs) := by
  induction cs generalizing depth with
  | nil => exact fun i closes => Nat.not_lt_zero i closes.1
  | cons c cs inductionHypothesis =>
    by_cases isOpening : c = '{'
    · subst isOpening
      rw [Piece.closing?]
      apply (inductionHypothesis (depth + 1)).cons
      · simp [closes_zero_iff]
      · exact fun _ => closes_opening_succ_iff
    · by_cases isClosing : c = '}'
      · subst isClosing
        cases depth with
        | zero =>
          refine ⟨rfl, closes_zero_iff.mpr ⟨rfl, rfl⟩, ?_⟩
          intro i _
          exact Nat.zero_le i
        | succ depth =>
          rw [Piece.closing?]
          apply (inductionHypothesis depth).cons
          · simp [closes_zero_iff]
          · exact fun _ => closes_closing_succ_iff
      · rw [Piece.closing?]
        · apply (inductionHypothesis depth).cons
          · simp [closes_zero_iff, isClosing]
          · exact fun _ => closes_other_succ_iff isOpening isClosing
        · exact isOpening
        · exact isClosing

section

variable {cs body after : List Char}

theorem closing?_eq_none_iff : Piece.closing? 1 cs = none ↔ ∀ i, ¬ Closes 1 cs i := by
  have finds := findsClosing_closing? 0 cs
  constructor
  · intro notFound
    rwa [notFound] at finds
  · intro noIndex
    rcases found : Piece.closing? 1 cs with _ | ⟨body, after⟩
    · rfl
    · rw [found] at finds
      exact absurd finds.2.1 (noIndex body.length)

/-- The body of a reference reaches to the least place where its braces are balanced. -/
theorem closing?_eq_some_iff : Piece.closing? 1 cs = some (body, after) ↔
    cs = body ++ '}' :: after ∧ IsLeast { i | Closes 1 cs i } body.length := by
  have finds := findsClosing_closing? 0 cs
  constructor
  · intro found
    rwa [found] at finds
  · rintro ⟨whole, least⟩
    rcases found : Piece.closing? 1 cs with _ | ⟨other, behind⟩
    · exact absurd least.1 (closing?_eq_none_iff.mp found _)
    · rw [found] at finds
      obtain ⟨wholeToo, leastToo⟩ := finds
      obtain ⟨rfl, same⟩ := List.append_inj (wholeToo.symm.trans whole) (leastToo.unique least)
      rw [List.tail_eq_of_cons_eq same]

end

/-! ### Captures -/

/-- The text begins with a capture of this name. -/
structure CapturesAt (cs name after : List Char) : Prop where
  text : cs = '$' :: '{' :: '>' :: name ++ '}' :: after
  named : name ≠ []
  noBraces : ∀ c ∈ name, c ≠ '{' ∧ c ≠ '}'

/-- The text begins with this capture, or with none, and goes on behind it. -/
def Follows (capture : Option (List Char)) (cs after : List Char) : Prop :=
  match capture with
  | some name => CapturesAt cs name after
  | none => after = cs ∧ ∀ name rest, ¬ CapturesAt cs name rest

section

variable {cs name after : List Char} {capture : Option (List Char)}

theorem capture?_eq_some_iff : Piece.capture? cs = some (name, after) ↔ CapturesAt cs name after := by
  constructor
  · intro found
    have text := Piece.append_of_capture? found
    unfold Piece.capture? at found
    split at found
    · cases found
    · next rest _ =>
      split at found
      · next c others behind taken _ =>
        cases found
        refine ⟨text, List.cons_ne_nil _ _, ?_⟩
        intro d isChar
        rw [← taken] at isChar
        simpa [Piece.isCaptureChar] using Text.run_of_mem_takeWhile isChar
      · cases found
  · rintro ⟨rfl, named, noBraces⟩
    have unbraced : ∀ c ∈ name, Piece.isCaptureChar c = true := by
      intro c isChar
      simpa [Piece.isCaptureChar] using noBraces c isChar
    have stop : ∀ c, ('}' :: after).head? = some c → Piece.isCaptureChar c = false := by
      rintro _ ⟨⟩
      rfl
    have taken := Text.takeWhile_run unbraced stop
    have left := Text.dropWhile_run unbraced stop
    have opened : '$' :: '{' :: '>' :: name ++ '}' :: after =
      ['$', '{', '>'] ++ (name ++ '}' :: after) := rfl
    rw [opened]
    unfold Piece.capture?
    rw [Text.after?_append]
    dsimp only
    rw [taken, left]
    obtain ⟨c, others, rfl⟩ := List.exists_cons_of_ne_nil named
    rfl

theorem takeCapture_eq_iff : Piece.takeCapture cs = (capture, after) ↔ Follows capture cs after := by
  unfold Piece.takeCapture
  rcases found : Piece.capture? cs with _ | ⟨name, behind⟩
  · have noCapture : ∀ name rest, ¬ CapturesAt cs name rest := by
      intro name rest captures
      rw [capture?_eq_some_iff.mpr captures] at found
      cases found
    cases capture with
    | none => simp [Follows, noCapture, eq_comm]
    | some name => simp [Follows, noCapture]
  · have captures := capture?_eq_some_iff.mp found
    cases capture with
    | none =>
      simp only [Follows, Prod.mk.injEq, reduceCtorEq, false_and, false_iff, not_and, not_forall]
      exact fun _ => ⟨name, behind, not_not.mpr captures⟩
    | some other =>
      rw [Follows, ← capture?_eq_some_iff, found]
      simp

end

/-! ### Cuts -/

/-- A text in its parts, from left to right: before each token a stretch that stands for itself, and
behind the last token the rest. -/
inductive Cut where
  | rest (text : List Char)
  | token (literal body : List Char) (capture : Option (List Char)) (after : Cut)
deriving DecidableEq, Repr

/-- The text goes on with `behind` after the first mark of a reference, and with `literal` before it. -/
structure FirstMark (text literal behind : List Char) : Prop where
  whole : text = literal ++ '$' :: '{' :: behind
  first : IsLeast { i | ['$', '{'] <+: text.drop i } literal.length

/-- The text is cut as references are read. -/
inductive IsCut : Cut → List Char → Prop where
  | rest {text : List Char}
      (unclosed : ∀ literal behind, FirstMark text literal behind → ∀ i, ¬ Closes 1 behind i) :
      IsCut (.rest text) text
  | token {text literal body tail others : List Char} {capture : Option (List Char)} {after : Cut}
      (mark : FirstMark text literal (body ++ '}' :: tail))
      (closing : IsLeast { i | Closes 1 (body ++ '}' :: tail) i } body.length)
      (follows : Follows capture tail others) (cut : IsCut after others) :
      IsCut (.token literal body capture after) text

namespace FirstMark

variable {c : Char} {text literal behind : List Char}

theorem unique {otherLiteral otherBehind : List Char} (mark : FirstMark text literal behind)
    (other : FirstMark text otherLiteral otherBehind) :
    otherLiteral = literal ∧ otherBehind = behind := by
  obtain ⟨rfl, same⟩ :=
    List.append_inj (other.whole.symm.trans mark.whole) (other.first.unique mark.first)
  cases same
  exact ⟨rfl, rfl⟩

theorem opening (behind : List Char) : FirstMark ('$' :: '{' :: behind) [] behind := by
  refine ⟨rfl, ⟨behind, rfl⟩, ?_⟩
  intro i _
  exact Nat.zero_le i

theorem cons (mark : FirstMark text literal behind) (noMark : ¬ ['$', '{'] <+: c :: text) :
    FirstMark (c :: text) (c :: literal) behind := by
  refine ⟨by rw [mark.whole]; rfl, ?_⟩
  exact isLeast_succ noMark (fun _ => Iff.rfl) mark.first

theorem of_cons (mark : FirstMark (c :: text) literal behind) (noMark : ¬ ['$', '{'] <+: c :: text) :
    ∃ shorter, literal = c :: shorter ∧ FirstMark text shorter behind := by
  obtain ⟨whole, first⟩ := mark
  cases literal with
  | nil => exact absurd first.1 noMark
  | cons d shorter =>
    cases whole
    refine ⟨shorter, rfl, rfl, first.1, ?_⟩
    intro i isMark
    exact Nat.le_of_succ_le_succ (first.2 isMark)

end FirstMark

namespace Cut

def rawToken (body : List Char) (capture : Option (List Char)) : List Char :=
  '$' :: '{' :: body ++ '}' :: Piece.rawCapture capture

def parts : Cut → List (List Char)
  | rest text => [text]
  | token literal body capture after => literal :: rawToken body capture :: after.parts

def before (c : Char) : Cut → Cut
  | rest text => rest (c :: text)
  | token literal body capture after => token (c :: literal) body capture after

def ofPieces : List Piece → Cut
  | [] => rest []
  | .char c :: ps => (ofPieces ps).before c
  | .reference body capture :: ps => token [] (Piece.rawAll body) capture (ofPieces ps)

theorem ofPieces_map_char (text : List Char) : ofPieces (text.map .char) = rest text := by
  induction text with
  | nil => rfl
  | cons c text inductionHypothesis =>
    rw [List.map_cons, ofPieces, inductionHypothesis]
    rfl

end Cut

def cut (text : List Char) : Cut :=
  .ofPieces (Piece.read text)

theorem IsCut.before {c : Char} {text : List Char} {parts : Cut} (isCut : IsCut parts text)
    (noMark : ¬ ['$', '{'] <+: c :: text) : IsCut (parts.before c) (c :: text) := by
  cases isCut with
  | rest unclosed =>
    apply IsCut.rest
    intro literal behind mark
    obtain ⟨shorter, -, mark⟩ := mark.of_cons noMark
    exact unclosed shorter behind mark
  | token mark closing follows after => exact .token (mark.cons noMark) closing follows after

theorem isCut_cut (text : List Char) : IsCut (cut text) text := by
  unfold cut
  fun_induction Piece.read text with
  | case1 =>
    apply IsCut.rest
    intro literal behind mark
    simpa using mark.whole
  | case2 rest notFound =>
    rw [Cut.ofPieces_map_char]
    apply IsCut.rest
    intro literal behind mark
    obtain ⟨-, rfl⟩ := (FirstMark.opening rest).unique mark
    exact closing?_eq_none_iff.mp notFound
  | case3 rest body after found _ _ _ inductionHypothesis =>
    obtain ⟨rfl, closing⟩ := closing?_eq_some_iff.mp found
    rw [Cut.ofPieces, Piece.rawAll_read]
    exact .token (.opening _) closing (takeCapture_eq_iff.mp rfl) inductionHypothesis
  | case4 c rest noMark inductionHypothesis =>
    apply inductionHypothesis.before
    rintro ⟨behind, isMark⟩
    cases isMark
    exact noMark behind rfl rfl

theorem IsCut.unique {text : List Char} {parts others : Cut} (isCut : IsCut parts text)
    (other : IsCut others text) : others = parts := by
  induction isCut generalizing others with
  | rest unclosed =>
    cases other with
    | rest => rfl
    | token mark closing => exact absurd closing.1 (unclosed _ _ mark _)
  | token mark closing follows _ inductionHypothesis =>
    cases other with
    | rest unclosed => exact absurd closing.1 (unclosed _ _ mark _)
    | token otherMark otherClosing otherFollows after =>
      obtain ⟨rfl, sameBehind⟩ := mark.unique otherMark
      rw [sameBehind] at otherClosing
      obtain ⟨rfl, sameTail⟩ := List.append_inj sameBehind (otherClosing.unique closing)
      cases sameTail
      have sameCapture := takeCapture_eq_iff.mpr otherFollows
      rw [takeCapture_eq_iff.mpr follows] at sameCapture
      cases sameCapture
      rw [inductionHypothesis after]

/-- There is one way to cut a text. -/
theorem isCut_iff {text : List Char} {parts : Cut} : IsCut parts text ↔ parts = cut text := by
  constructor
  · exact (isCut_cut text).unique
  · rintro rfl
    exact isCut_cut text

theorem Follows.append {capture : Option (List Char)} {cs after : List Char}
    (follows : Follows capture cs after) : Piece.rawCapture capture ++ after = cs := by
  have whole := Piece.rawCapture_takeCapture cs
  rwa [takeCapture_eq_iff.mpr follows] at whole

theorem IsCut.flatten_parts {text : List Char} {parts : Cut} (isCut : IsCut parts text) :
    parts.parts.flatten = text := by
  induction isCut with
  | rest => simp [Cut.parts]
  | token mark _ follows _ inductionHypothesis =>
    rw [Cut.parts, List.flatten_cons, List.flatten_cons, inductionHypothesis, mark.whole,
      Cut.rawToken]
    simp [follows.append]

/-! ### A pass over the parts -/

namespace Cut

variable {β : Type} (sources : Sources β)

/-- The value of a token, which is bound to the name of its capture. A token whose body begins with the
mark of a capture stays as it is. -/
def tokenValue (body : List Char) (capture : Option (List Char)) : Resolving β (List Char) := do
  let raw := rawToken body capture
  if body.head? = some '>' then return raw
  else
    let value ← Resolving.perform sources raw (.ofBody (← pass sources body))
    match capture with
    | some name => Resolving.bindName name value
    | none => pure ()
    return value

def values : Cut → Resolving β (List (List Char))
  | rest text => return [text]
  | token literal body capture after => do
    let value ← tokenValue sources body capture
    return literal :: value :: (← after.values)

theorem flatten_values_before (c : Char) (parts : Cut) :
    List.flatten <$> (parts.before c).values sources =
      (c :: ·) <$> List.flatten <$> parts.values sources := by
  cases parts <;> simp [before, values]

theorem eval_reference (body : List Char) (capture : Option (List Char)) :
    Piece.eval sources (.reference (Piece.read body) capture) = tokenValue sources body capture := by
  unfold Piece.eval tokenValue pass
  simp only [Piece.raw, Piece.rawAll_read]
  rfl

end Cut

theorem pass_eq {β : Type} (sources : Sources β) (text : List Char) :
    pass sources text = List.flatten <$> (cut text).values sources := by
  unfold pass cut
  fun_induction Piece.read text with
  | case1 => rfl
  | case2 rest _ =>
    have plain : Piece.evalAll sources (('$' :: '{' :: rest).map .char) = pure ('$' :: '{' :: rest) :=
      funext fun r => result_evalAll_map_char sources ('$' :: '{' :: rest) r
    rw [Cut.ofPieces_map_char, plain, Cut.values, map_pure, List.flatten_singleton]
  | case3 rest body after _ _ _ _ inductionHypothesis =>
    rw [Piece.evalAll, inductionHypothesis, Cut.eval_reference, Cut.ofPieces, Piece.rawAll_read,
      Cut.values]
    simp
  | case4 c rest _ inductionHypothesis =>
    rw [Piece.evalAll, inductionHypothesis, Cut.ofPieces, Cut.flatten_values_before, Piece.eval]
    simp

/-- The parts of a text and its braces are found as they are described, and a pass comes to the values
of the parts, one behind the other. -/
theorem pass_tokens {β : Type} (sources : Sources β) (text : List Char) :
    (∀ parts, IsCut parts text ↔ parts = cut text) ∧
      (cut text).parts.flatten = text ∧
      (∀ cs body after, Piece.closing? 1 cs = some (body, after) ↔
        cs = body ++ '}' :: after ∧ IsLeast { i | Closes 1 cs i } body.length) ∧
      (∀ cs, Piece.closing? 1 cs = none ↔ ∀ i, ¬ Closes 1 cs i) ∧
      pass sources text = List.flatten <$> (cut text).values sources ∧
      ∀ r s, result ((cut text).values sources) r = (.ok (cut text).parts, s) →
        result (pass sources text) r = (.ok text, s) := by
  have whole := (isCut_cut text).flatten_parts
  refine ⟨fun _ => isCut_iff, whole, fun _ _ _ => closing?_eq_some_iff,
    fun _ => closing?_eq_none_iff, pass_eq sources text, ?_⟩
  intro r s unchanged
  rw [pass_eq, map_eq_pure_bind, result_bind_of_ok unchanged, result_pure, whole]

theorem pass_tokens_leftover :
    let text := "a${x}${>y}b$".toList
    let start : Resolution Unit := ⟨.ofPairs [], [], ()⟩
    cut text = .token ['a'] ['x'] (some ['y']) (.rest ['b', '$']) ∧
      ∃ s, result ((cut text).values stillSources) start = (.ok (cut text).parts, s) ∧
        result (pass stillSources text) start = (.ok text, s) := by
  intro text start
  obtain ⟨-, -, -, -, -, unchanged⟩ := pass_tokens stillSources text
  have same : (result ((cut text).values stillSources) start).1 = .ok (cut text).parts := by
    decide +kernel
  exact ⟨by decide +kernel, _, Prod.ext same rfl, unchanged _ _ (Prod.ext same rfl)⟩

end PromptTree.Template
