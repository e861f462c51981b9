import Mathlib
import PromptTree.Proofs.Block.Reading
import PromptTree.Proofs.Stretch

/-!
Passes over a text until no block is left. A pass can put tags, and with them marks, where there
were none, and what replaces a block can be longer than the block; but an inert text takes the place
of two opening marks, so each pass that changes anything leaves fewer places where an opening mark
begins. Main statements: the passes come to an end (`settles_transform`), and then there is no block
left (`transform_leaves_no_block`).
-/

namespace PromptTree.Block

open Text

/-! ### One pass -/

/-- A pass over a text replaces each block that it reads by its value. -/
inductive Passed : List Char → List Char → Prop where
  | nil : Passed [] []
  | replaced {cs after value rest : List Char} {b : Block} :
    read? cs = some (b, after) → b.value = .ok value → Passed after rest → Passed cs (value ++ rest)
  | kept {c : Char} {cs rest : List Char} :
    read? (c :: cs) = none → Passed cs rest → Passed (c :: cs) (c :: rest)

theorem pass_of_read? {cs after : List Char} {b : Block} (found : read? cs = some (b, after)) :
    pass cs = (do return (← b.value) ++ (← pass after)) := by
  cases cs with
  | nil => cases found
  | cons c cs =>
    rw [pass]
    split
    · next other others same =>
      rw [same] at found
      cases found
      rfl
    · next none =>
      rw [none] at found
      cases found

theorem pass_cons {c : Char} {cs : List Char} (none : read? (c :: cs) = none) :
    pass (c :: cs) = (do return c :: (← pass cs)) := by
  rw [pass]
  split
  · next found =>
    rw [none] at found
    cases found
  · rfl

theorem passed_of_pass {cs updated : List Char} (ended : pass cs = .ok updated) :
    Passed cs updated := by
  induction cs using pass.induct generalizing updated with
  | case1 =>
    rw [pass] at ended
    cases ended
    exact .nil
  | case2 c cs b after found shorter inductionHypothesis =>
    rw [pass_of_read? found] at ended
    obtain ⟨value, valued, ended⟩ := except_bind_eq_ok_iff.mp ended
    obtain ⟨rest, passed, ended⟩ := except_bind_eq_ok_iff.mp ended
    cases ended
    exact .replaced found valued (inductionHypothesis passed)
  | case3 c cs none inductionHypothesis =>
    rw [pass_cons none] at ended
    obtain ⟨rest, passed, ended⟩ := except_bind_eq_ok_iff.mp ended
    cases ended
    exact .kept none (inductionHypothesis passed)

theorem error_of_pipe {modes : List (List Char)} {body : List Char} {e : UnknownMode}
    (failed : pipe modes body = .error e) : Transform.named? e.mode.toList = none := by
  induction modes generalizing body with
  | nil => cases failed
  | cons mode modes inductionHypothesis =>
    rw [pipe] at failed
    split at failed
    · exact inductionHypothesis failed
    · next unknown =>
      cases failed
      rw [String.toList_ofList]
      exact unknown

/-- A pass only fails for a mode that names no transform. -/
theorem error_of_pass {cs : List Char} {e : UnknownMode} (failed : pass cs = .error e) :
    Transform.named? e.mode.toList = none := by
  induction cs using pass.induct with
  | case1 =>
    rw [pass] at failed
    cases failed
  | case2 c cs b after found shorter inductionHypothesis =>
    rw [pass_of_read? found] at failed
    rcases except_bind_eq_error_iff.mp failed with unknown | ⟨value, _, later⟩
    · exact error_of_pipe unknown
    · rcases except_bind_eq_error_iff.mp later with unknown | ⟨rest, _, returned⟩
      · exact inductionHypothesis unknown
      · cases returned
  | case3 c cs none inductionHypothesis =>
    rw [pass_cons none] at failed
    rcases except_bind_eq_error_iff.mp failed with unknown | ⟨rest, _, returned⟩
    · exact inductionHypothesis unknown
    · cases returned

/-! ### The measure -/

def openings : List Char → Nat
  | [] => 0
  | c :: cs => (if opening <+: c :: cs then 1 else 0) + openings cs

theorem openings_le_count (cs : List Char) : openings cs ≤ cs.count '<' := by
  induction cs with
  | nil => exact Nat.le_refl 0
  | cons c cs inductionHypothesis =>
    rw [openings, List.count_cons]
    split
    · next begins =>
      obtain rfl : '<' = c := (List.cons_prefix_cons.mp begins).1
      simp only [beq_self_eq_true, if_true]
      omega
    · omega

theorem openings_le_append (first second : List Char) :
    openings second ≤ openings (first ++ second) := by
  induction first with
  | nil => exact Nat.le_refl _
  | cons c first inductionHypothesis =>
    rw [List.cons_append, openings]
    omega

theorem openings_append_of_inert {first : List Char} (inert : Inert first) (second : List Char) :
    openings (first ++ second) = openings second := by
  induction first with
  | nil => rfl
  | cons c first inductionHypothesis =>
    have begins : ¬ opening <+: c :: (first ++ second) :=
      fun begins => inert.1 (opening_prefix_append_opening begins)
    rw [List.cons_append, openings, if_neg begins, inductionHypothesis inert.2, Nat.zero_add]

theorem openings_lt_of_read? {cs after : List Char} {b : Block}
    (found : read? cs = some (b, after)) : openings after < openings cs := by
  rw [append_of_read? found]
  have begins : opening <+: b.write ++ after := by simp [write, List.append_assoc]
  obtain ⟨others, whole⟩ : ∃ others, b.write ++ after = '<' :: (others ++ after) :=
    ⟨_, rfl⟩
  have fewer := openings_le_append others after
  rw [whole] at begins ⊢
  rw [openings, if_pos begins]
  omega

/-- A pass puts marks in front of what it leaves only where there were as many. -/
theorem Passed.marks {cs updated : List Char} (passed : Passed cs updated) {n : Nat} (few : n ≤ 3)
    (marked : List.replicate n '<' <+: updated) : List.replicate n '<' <+: cs := by
  induction passed generalizing n with
  | nil => exact marked
  | @replaced cs after value rest b found _ _ _ =>
    have begins : opening <+: cs := by
      rw [append_of_read? found]
      simp [write, List.append_assoc]
    have part : List.replicate n '<' <+: opening := by
      refine ⟨List.replicate (3 - n) '<', ?_⟩
      rw [List.replicate_append_replicate, Nat.add_sub_cancel' few]
      rfl
    exact part.trans begins
  | kept _ _ inductionHypothesis =>
    cases n with
    | zero => exact List.nil_prefix
    | succ n =>
      rw [List.replicate_succ, List.cons_prefix_cons] at marked ⊢
      exact ⟨marked.1, inductionHypothesis (by omega) marked.2⟩

/-- A pass that replaces nothing has met no block, and any other pass leaves fewer openings. -/
theorem Passed.eq_or_lt {cs updated : List Char} (passed : Passed cs updated) :
    updated = cs ∧ ¬ HasBlock cs ∨ openings updated < openings cs := by
  induction passed with
  | nil => exact .inl ⟨rfl, not_hasBlock_nil⟩
  | @replaced cs after value rest b found valued _ inductionHypothesis =>
    have inert := inert_pipe (read?_eq_some_iff.mp found).2.body valued
    have fewer := openings_lt_of_read? found
    rw [openings_append_of_inert inert]
    rcases inductionHypothesis with ⟨rfl, _⟩ | less
    · exact .inr fewer
    · exact .inr (Nat.lt_trans less fewer)
  | @kept c cs rest none passed inductionHypothesis =>
    rcases inductionHypothesis with ⟨rfl, noBlock⟩ | less
    · refine .inl ⟨rfl, ?_⟩
      rw [hasBlock_cons_iff, none]
      simpa using noBlock
    · refine .inr ?_
      rw [openings, openings]
      split
      · next begins =>
        have still : opening <+: c :: cs := (Passed.kept none passed).marks (Nat.le_refl 3) begins
        rw [if_pos still]
        omega
      · omega

/-! ### Pass after pass -/

/-- Where passes over a text lead, as many as it takes: to a text that a pass leaves as it is, or to
an unknown mode. -/
inductive Settles : List Char → Except UnknownMode (List Char) → Prop where
  | stays {cs : List Char} : pass cs = .ok cs → Settles cs (.ok cs)
  | changes {cs updated : List Char} {outcome : Except UnknownMode (List Char)} :
    pass cs = .ok updated → updated ≠ cs → Settles updated outcome → Settles cs outcome
  | fails {cs : List Char} {e : UnknownMode} : pass cs = .error e → Settles cs (.error e)

theorem settles_settle {passes : Nat} {cs : List Char} (enough : openings cs < passes) :
    Settles cs (settle passes cs) := by
  induction passes generalizing cs with
  | zero => omega
  | succ passes inductionHypothesis =>
    rw [settle]
    cases ended : pass cs with
    | error e => exact .fails ended
    | ok updated =>
      change Settles cs (if updated = cs then .ok updated else settle passes updated)
      split
      · next same =>
        rw [same] at ended ⊢
        exact .stays ended
      · next changed =>
        refine .changes ended changed (inductionHypothesis ?_)
        rcases (passed_of_pass ended).eq_or_lt with ⟨same, _⟩ | fewer
        · exact absurd same changed
        · omega

/-- There are always enough passes. -/
theorem settles_transform (cs : List Char) : Settles cs (transform cs) :=
  settles_settle (Nat.lt_succ_of_le (openings_le_count cs))

section

variable {cs updated : List Char} {outcome : Except UnknownMode (List Char)} {e : UnknownMode}

theorem settles_iff_of_ok (ended : pass cs = .ok updated) :
    Settles cs outcome ↔ if updated = cs then outcome = .ok cs else Settles updated outcome := by
  constructor
  · rintro (stays | ⟨again, changed, settles⟩ | failed)
    · cases stays.symm.trans ended
      rw [if_pos rfl]
    · cases again.symm.trans ended
      rwa [if_neg changed]
    · cases failed.symm.trans ended
  · split
    · next same =>
      rintro rfl
      rw [same] at ended
      exact .stays ended
    · next changed => exact .changes ended changed

theorem settles_iff_of_error (failed : pass cs = .error e) :
    Settles cs outcome ↔ outcome = .error e := by
  constructor
  · rintro (stays | ⟨ended, _, _⟩ | again)
    · cases stays.symm.trans failed
    · cases ended.symm.trans failed
    · cases again.symm.trans failed
      rfl
  · rintro rfl
    exact .fails failed

end

theorem Settles.unique {cs : List Char} {first second : Except UnknownMode (List Char)}
    (one : Settles cs first) (other : Settles cs second) : first = second := by
  induction one with
  | stays stays =>
    rw [settles_iff_of_ok stays, if_pos rfl] at other
    exact other.symm
  | changes ended changed _ inductionHypothesis =>
    rw [settles_iff_of_ok ended, if_neg changed] at other
    exact inductionHypothesis other
  | fails failed => exact ((settles_iff_of_error failed).mp other).symm

theorem transform_eq_iff {cs : List Char} {outcome : Except UnknownMode (List Char)} :
    transform cs = outcome ↔ Settles cs outcome := by
  constructor
  · rintro rfl
    exact settles_transform cs
  · exact (settles_transform cs).unique

theorem Settles.pass_eq {cs r : List Char} (settles : Settles cs (.ok r)) : pass r = .ok r := by
  generalize outcome : Except.ok r = o at settles
  induction settles with
  | stays stays =>
    cases outcome
    exact stays
  | changes _ _ _ inductionHypothesis => exact inductionHypothesis outcome
  | fails => cases outcome

theorem Settles.named?_eq_none {cs : List Char} {e : UnknownMode}
    (settles : Settles cs (.error e)) :
    Transform.named? e.mode.toList = none := by
  generalize outcome : Except.error e = o at settles
  induction settles with
  | stays => cases outcome
  | changes _ _ _ inductionHypothesis => exact inductionHypothesis outcome
  | fails failed =>
    cases outcome
    exact error_of_pass failed

/-- Pass after pass over any text comes to an end, and the transformation gives what is there then.
If it complains, it does so about a mode that names no transform. If it returns a text, there is no
block anywhere in it, so that transforming it again changes nothing. -/
theorem transform_leaves_no_block (cs : List Char) :
    Settles cs (transform cs) ∧
      (∀ e, transform cs = .error e → Transform.named? e.mode.toList = none) ∧
      ∀ r, transform cs = .ok r → ¬ HasBlock r ∧ transform r = .ok r := by
  have settles := settles_transform cs
  refine ⟨settles, ?_, ?_⟩
  · intro e failed
    rw [failed] at settles
    exact settles.named?_eq_none
  · intro r ended
    rw [ended] at settles
    have stays := settles.pass_eq
    refine ⟨?_, transform_eq_iff.mpr (.stays stays)⟩
    rcases (passed_of_pass stays).eq_or_lt with ⟨_, noBlock⟩ | less
    · exact noBlock
    · exact absurd less (Nat.lt_irrefl _)

theorem transform_leaves_no_block_nested :
    (transform "<<<text-to-html>>>x\n<<<quoted-printable>>>=<<<end>>> & y<<<end>>>".toList =
        .ok "x<br />\n=3D &amp; y".toList ∧
      ¬ HasBlock "x<br />\n=3D &amp; y".toList ∧
      transform "x<br />\n=3D &amp; y".toList = .ok "x<br />\n=3D &amp; y".toList) ∧
      transform "<<<text-to-html|rot13>>>x<<<end>>>".toList = .error ⟨"rot13"⟩ ∧
      Transform.named? "rot13".toList = none := by
  have ended :
      transform "<<<text-to-html>>>x\n<<<quoted-printable>>>=<<<end>>> & y<<<end>>>".toList =
        .ok "x<br />\n=3D &amp; y".toList := by cbv
  have failed : transform "<<<text-to-html|rot13>>>x<<<end>>>".toList = .error ⟨"rot13"⟩ := by cbv
  exact ⟨⟨ended, (transform_leaves_no_block _).2.2 _ ended⟩, failed,
    (transform_leaves_no_block _).2.1 _ failed⟩

end PromptTree.Block
