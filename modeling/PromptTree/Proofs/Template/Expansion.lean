import PromptTree.Proofs.Stretch
import PromptTree.Proofs.Template.Glossary
import PromptTree.Template.Resolve

/-!
Resolving plain templates against glossaries. Main statements: a pass replaces each reference once
(`result_pass`), and passes until nothing changes make the full expansion if there is one pass more
than the rank, and no fewer passes will do (`resolve_glossary`).
-/

namespace PromptTree.Template

variable {β : Type}

/-! ### One pass -/

def functionNames : List String := ["@autocamel", "@tee", "@date", "@rand"]

/-- A body without arguments that is not the name of a built-in function asks for a name. -/
theorem ofBody_of_not_function {body : List Char} (noBar : '|' ∉ body)
    (noFunction : ∀ function ∈ functionNames, body ≠ function.toList) :
    Command.ofBody body = .lookup body := by
  simp only [functionNames, List.forall_mem_cons] at noFunction
  obtain ⟨notCamel, notTee, notDate, notRandom, _⟩ := noFunction
  unfold Command.ofBody
  rw [Text.splitOn_of_not_mem noBar]
  dsimp only
  rw [if_neg notCamel, if_neg notTee, if_neg notDate, if_neg notRandom]

theorem ofBody_of_noFunction {body : List Char} (noBar : '|' ∉ body)
    (noFunction : body.head? ≠ some '@') : Command.ofBody body = .lookup body := by
  have marked : ∀ function ∈ functionNames, function.toList.head? = some '@' := by decide
  apply ofBody_of_not_function noBar
  rintro function isFunction rfl
  exact noFunction (marked function isFunction)

namespace Glossary

variable (glossary : Glossary)

theorem write_substituteFragment (name : Name) :
    write (glossary.substituteFragment (.reference name)) =
      ((glossary.lookup name).map write).getD (writeReference name) := by
  cases found : glossary.lookup name with
  | none => simp [substituteFragment, found, write, Fragment.write]
  | some value => simp [substituteFragment, found]

end Glossary

theorem result_lookup (name : List Char) (r : Resolution β) :
    result (Resolving.lookup name) r =
      (.ok ((r.bindings.get? (.ofList name)).map String.toList), r) := rfl

theorem result_report (name raw : List Char) (r : Resolution β) :
    ∃ s, result (Resolving.report name raw) r = (.ok (), s) ∧ s.bindings = r.bindings := by
  refine ⟨_, rfl, ?_⟩
  dsimp only
  split <;> rfl

section

variable (sources : Sources β) {glossary : Glossary}

theorem result_evalAll_map_char (cs : List Char) (r : Resolution β) :
    result (Piece.evalAll sources (cs.map .char)) r = (.ok cs, r) := by
  induction cs with
  | nil => rfl
  | cons c cs inductionHypothesis =>
    rw [List.map_cons, Piece.evalAll, Piece.eval]
    simp only [result_bind, result_pure, inductionHypothesis]
    rfl

theorem result_evalAll_append {first second : List Piece} {r s t : Resolution β} {cs ds : List Char}
    (firstEnded : result (Piece.evalAll sources first) r = (.ok cs, s))
    (secondEnded : result (Piece.evalAll sources second) s = (.ok ds, t)) :
    result (Piece.evalAll sources (first ++ second)) r = (.ok (cs ++ ds), t) := by
  induction first generalizing r cs with
  | nil =>
    cases firstEnded
    exact secondEnded
  | cons piece first inductionHypothesis =>
    rw [Piece.evalAll] at firstEnded
    obtain ⟨value, u, pieceEnded, rest⟩ := result_bind_eq_ok_iff.mp firstEnded
    obtain ⟨others, v, restEnded, whole⟩ := result_bind_eq_ok_iff.mp rest
    cases whole
    have followed := inductionHypothesis restEnded
    rw [List.cons_append, Piece.evalAll, result_bind_of_ok pieceEnded, result_bind_of_ok followed,
      result_pure, List.append_assoc]

theorem result_evalAll_singleton {p : Piece} {r s : Resolution β} {value : List Char}
    (ended : result (p.eval sources) r = (.ok value, s)) :
    result (Piece.evalAll sources [p]) r = (.ok value, s) := by
  rw [Piece.evalAll, result_bind_of_ok ended, Piece.evalAll, result_bind_of_ok (result_pure _ s),
    result_pure, List.append_nil]

theorem result_perform_lookup (raw name : List Char) (r : Resolution β) :
    ∃ s, result (Resolving.perform sources raw (.lookup name)) r =
        (.ok (((r.bindings.get? (.ofList name)).map String.toList).getD raw), s) ∧
      s.bindings = r.bindings := by
  unfold Resolving.perform
  dsimp only
  rw [result_bind_of_ok (result_lookup name r)]
  cases r.bindings.get? (.ofList name) with
  | none =>
    obtain ⟨s, reported, same⟩ := result_report name raw r
    refine ⟨s, ?_, same⟩
    dsimp only [Option.map_none]
    rw [result_bind_of_ok reported]
    rfl
  | some value => exact ⟨r, rfl, rfl⟩

theorem result_perform_date (raw pattern : List Char) {expression : List Char} {r : Resolution β}
    {m : Calendar.Moment} (resolved :
      Calendar.resolveMoment (some (.ofList expression)) (sources.now r.source).1 = .ok m) :
    ∃ s, result (Resolving.perform sources raw (.date pattern expression)) r =
      (.ok (m.format (.ofList pattern)).toList, s) := by
  have asked : result (Resolving.now sources) r =
    (.ok (sources.now r.source).1, { r with source := (sources.now r.source).2 }) := rfl
  refine ⟨{ r with source := (sources.now r.source).2 }, ?_⟩
  unfold Resolving.perform
  dsimp only
  rw [result_bind_of_ok asked, resolved]
  rfl

/-- The bindings after a text has been captured, if it has. -/
def afterCapture (bindings : Scope) (capture : Option (List Char)) (text : List Char) : Scope :=
  match capture with
  | none => bindings
  | some name => bindings.write (.ofList name) (.ofList text)

/-- A reference comes to what the command in its body comes to, once the body is evaluated. -/
theorem result_eval_reference {body : List Piece} {capture : Option (List Char)}
    {r s t : Resolution β} {evaluated value : List Char}
    (noCapture : ¬ (Piece.rawAll body).head? = some '>')
    (bodyEnded : result (Piece.evalAll sources body) r = (.ok evaluated, s))
    (performed : result (Resolving.perform sources (Piece.reference body capture).raw
      (.ofBody evaluated)) s = (.ok value, t)) :
    ∃ u, result (Piece.evalAll sources [.reference body capture]) r = (.ok value, u) ∧
      u.bindings = afterCapture t.bindings capture value := by
  have whole : result (Piece.eval sources (.reference body capture)) r =
      (.ok value, { t with bindings := afterCapture t.bindings capture value }) := by
    unfold Piece.eval
    rw [if_neg noCapture, result_bind_of_ok bodyEnded, result_bind_of_ok performed]
    cases capture <;> rfl
  exact ⟨_, result_evalAll_singleton sources whole, rfl⟩

/-- A reference to a name comes to the text of the name, and to itself if it has none. -/
theorem result_lookup_reference {name : List Char} (asks : Command.ofBody name = .lookup name)
    (noCapture : name.head? ≠ some '>') (capture : Option (List Char)) (r : Resolution β) :
    let raw := (Piece.reference (name.map .char) capture).raw
    let value := ((r.bindings.get? (.ofList name)).map String.toList).getD raw
    ∃ s, result (Piece.evalAll sources [.reference (name.map .char) capture]) r = (.ok value, s) ∧
      s.bindings = afterCapture r.bindings capture value := by
  intro raw value
  have noCaptureToo : ¬ (Piece.rawAll (name.map .char)).head? = some '>' := by
    rwa [Piece.rawAll_map_char]
  obtain ⟨s, performed, same⟩ := result_perform_lookup sources raw name r
  rw [← asks] at performed
  obtain ⟨t, ended, bindings⟩ :=
    result_eval_reference sources noCaptureToo (result_evalAll_map_char sources name r) performed
  rw [same] at bindings
  exact ⟨t, ended, bindings⟩

theorem result_reference (name : Name) {r : Resolution β} (bound : r.bindings = glossary.scope) :
    ∃ s, result (Piece.evalAll sources (Fragment.reference name).pieces) r =
        (.ok (write (glossary.substituteFragment (.reference name))), s) ∧
      s.bindings = glossary.scope := by
  have raw : (Piece.reference (name.1.map .char) none).raw = writeReference name := by
    rw [Piece.raw, Piece.rawAll_map_char]
    rfl
  have noBar : '|' ∉ name.1 := fun isBar => (name.2.plain _ isBar).2.2.2 rfl
  have asks := ofBody_of_noFunction noBar name.2.noFunction
  obtain ⟨s, ended, same⟩ := result_lookup_reference sources asks name.2.noCapture none r
  rw [bound, Glossary.get?_scope, raw] at ended
  refine ⟨s, ?_, same.trans bound⟩
  rw [glossary.write_substituteFragment, Fragment.pieces, ended, Option.map_map]
  cases glossary.lookup name <;> simp

theorem result_evalAll_pieces (text : Plain) {r : Resolution β}
    (bound : r.bindings = glossary.scope) :
    ∃ s, result (Piece.evalAll sources (pieces text)) r =
        (.ok (write (glossary.substitute text)), s) ∧ s.bindings = glossary.scope := by
  induction text generalizing r with
  | nil => exact ⟨r, rfl, bound⟩
  | cons fragment text inductionHypothesis =>
    have first : ∃ s, result (Piece.evalAll sources fragment.pieces) r =
        (.ok (write (glossary.substituteFragment fragment)), s) ∧ s.bindings = glossary.scope := by
      cases fragment with
      | literal literal unmarked =>
        refine ⟨r, ?_, bound⟩
        rw [Fragment.pieces, result_evalAll_map_char]
        simp [Glossary.substituteFragment, write, Fragment.write]
      | reference name => exact result_reference sources name bound
    obtain ⟨s, firstEnded, firstBound⟩ := first
    obtain ⟨t, restEnded, restBound⟩ := inductionHypothesis firstBound
    refine ⟨t, ?_, restBound⟩
    have ended := result_evalAll_append sources firstEnded restEnded
    rw [pieces, List.flatMap_cons, ← pieces, ended]
    simp [write, Glossary.substitute]

/-- One pass replaces every reference to a defined name by the value of the name, and nothing else.
-/
theorem result_pass (text : Plain) {r : Resolution β} (bound : r.bindings = glossary.scope) :
    ∃ s, result (pass sources (write text)) r = (.ok (write (glossary.substitute text)), s) ∧
      s.bindings = glossary.scope := by
  unfold pass
  rw [read_write]
  exact result_evalAll_pieces sources text bound

/-! ### Passes until nothing changes -/

/-- Two passes are enough if the second one leaves as it is what the first one has made. -/
theorem result_settle_of_two_passes {text updated : List Char} {r s t : Resolution β}
    (first : result (pass sources text) r = (.ok updated, s))
    (second : result (pass sources updated) s = (.ok updated, t)) (more : Nat) :
    ∃ u, result (settle sources (more + 2) text) r = (.ok (some updated), u) := by
  rw [settle, result_bind_of_ok first]
  by_cases unchanged : updated = text
  · rw [if_pos unchanged]
    exact ⟨s, rfl⟩
  · rw [if_neg unchanged, settle, result_bind_of_ok second, if_pos rfl]
    exact ⟨t, rfl⟩

/-- A pass leaves a text as it is only if it refers to no defined name: otherwise what it makes of
the text has a smaller rank, and the rank can be read off the text. -/
theorem rank_eq_zero_of_unchanged {text : Plain}
    (unchanged : write (glossary.substitute text) = write text) : glossary.rank text = 0 := by
  have sameValues : glossary.values (glossary.substitute text) = glossary.values text := by
    rw [Glossary.values, Glossary.values, references_eq_of_write_eq unchanged]
  have sameRank : glossary.rank (glossary.substitute text) = glossary.rank text := by
    rw [Glossary.rank_eq, Glossary.rank_eq, sameValues]
  rw [Glossary.rank_substitute] at sameRank
  omega

theorem result_settle (passes : Nat) (text : Plain) {r : Resolution β}
    (bound : r.bindings = glossary.scope) :
    ∃ s, result (settle sources passes (write text)) r =
      (.ok (if glossary.rank text < passes then some (glossary.expand text) else none), s) := by
  induction passes generalizing text r with
  | zero => exact ⟨r, rfl⟩
  | succ passes inductionHypothesis =>
    obtain ⟨s, passed, same⟩ := result_pass sources text bound
    rw [settle, result_bind_of_ok passed]
    by_cases unchanged : write (glossary.substitute text) = write text
    · have settled := rank_eq_zero_of_unchanged unchanged
      refine ⟨s, ?_⟩
      rw [if_pos unchanged, if_pos (by omega), unchanged,
        (glossary.substitute_of_rank_eq_zero settled).2]
      rfl
    · have unsettled : glossary.rank text ≠ 0 := by
        intro settled
        rw [(glossary.substitute_of_rank_eq_zero settled).1] at unchanged
        exact unchanged rfl
      obtain ⟨t, ended⟩ := inductionHypothesis (glossary.substitute text) same
      refine ⟨t, ?_⟩
      have oneLess : glossary.rank text - 1 < passes ↔ glossary.rank text < passes + 1 := by omega
      rw [if_neg unchanged, ended, Glossary.rank_substitute, Glossary.expand_substitute]
      simp only [oneLess]

end

theorem outcome_resolve (sources : Sources β) (passes : Int) (text : String) (scope : Scope)
    (source : β) :
    (resolve sources passes text scope source).outcome =
      match (result (settle sources passes.toNat text.toList) ⟨scope, [], source⟩).1 with
      | .error fault => .error fault
      | .ok (some cs) => .ok (.ofList cs)
      | .ok none => .error (.unsettled passes (text.take 200).toString) := rfl

/-- A plain template is resolved to its full expansion if there is at least one pass more than its
rank, and does not settle if there are no more passes than its rank. -/
theorem resolve_glossary (sources : Sources β) (glossary : Glossary) (text : Plain) (passes : Int)
    (source : β) :
    let written := String.ofList (write text)
    let outcome := (resolve sources passes written glossary.scope source).outcome
    (glossary.rank text + 1 ≤ passes → outcome = .ok (String.ofList (glossary.expand text))) ∧
      (passes ≤ glossary.rank text →
        outcome = .error (.unsettled passes (written.take 200).toString)) := by
  intro written outcome
  let start : Resolution β := ⟨glossary.scope, [], source⟩
  have bound : start.bindings = glossary.scope := rfl
  obtain ⟨s, ended⟩ := result_settle sources passes.toNat text bound
  have outcomeEq : outcome = _ := outcome_resolve sources passes written glossary.scope source
  rw [String.toList_ofList, ended] at outcomeEq
  constructor
  · intro enough
    rw [outcomeEq, if_pos (by omega)]
  · intro tooFew
    rw [outcomeEq, if_neg (by omega)]

/-- A greeting that refers to who is greeted, and who that is. -/
def greeting : Glossary where
  entries :=
    [(⟨['h', 'i'], by decide⟩,
        [.literal ['H', 'i', ' '] (by decide), .reference ⟨['w', 'h', 'o'], by decide⟩]),
      (⟨['w', 'h', 'o'], by decide⟩, [.literal ['E', 'v', 'e'] (by decide)])]
  nodup := by decide
  acyclic := by
    apply acyclic_of_falls fun name => if name.1 = ['h', 'i'] then 1 else 0
    rintro name other ⟨value, found, isReference, _⟩
    rw [List.lookup_cons, List.lookup_cons, List.lookup_nil] at found
    split at found
    · next isGreeting =>
      cases found
      obtain rfl := List.mem_singleton.mp isReference
      obtain rfl := eq_of_beq isGreeting
      decide
    · split at found
      · cases found
        cases isReference
      · cases found

def salute : Plain :=
  [.reference ⟨['h', 'i'], by decide⟩, .literal ['!'] (by decide)]

def stillSources : Sources Unit where
  now _ := (⟨⟨2024, 1, 1, by decide, by decide, by decide⟩, .midnight, none⟩, ())
  choose _ _ := (0, ())

theorem rank_salute : greeting.rank salute = 2 := by
  rw [salute, Glossary.rank_cons, Glossary.rank_literal, greeting.rank_defined rfl,
    Glossary.rank_cons, Glossary.rank_literal, greeting.rank_defined rfl, Glossary.rank_literal]
  rfl

theorem expand_salute : String.ofList (greeting.expand salute) = "Hi Eve!" := by
  have who : greeting.expandFragment (.reference ⟨['w', 'h', 'o'], by decide⟩) =
      ['E', 'v', 'e'] := by
    change greeting.expand [.literal ['E', 'v', 'e'] (by decide)] = _
    rw [Glossary.expand_eq]
    rfl
  have hi : greeting.expandFragment (.reference ⟨['h', 'i'], by decide⟩) =
      ['H', 'i', ' ', 'E', 'v', 'e'] := by
    change greeting.expand [.literal ['H', 'i', ' '] (by decide), .reference _] = _
    rw [Glossary.expand_eq, List.flatMap_cons, List.flatMap_cons, who]
    rfl
  rw [salute, Glossary.expand_eq, List.flatMap_cons, hi]
  rfl

theorem resolve_glossary_salute :
    let written := String.ofList (write salute)
    let outcome passes := (resolve stillSources passes written greeting.scope ()).outcome
    (greeting.rank salute + 1 ≤ (3 : Int) ∧ outcome 3 = .ok "Hi Eve!") ∧
      ((2 : Int) ≤ greeting.rank salute ∧
        outcome 2 = .error (.unsettled 2 (written.take 200).toString)) := by
  have enough : greeting.rank salute + 1 ≤ (3 : Int) := by
    rw [rank_salute]
    decide
  have tooFew : (2 : Int) ≤ greeting.rank salute := by
    rw [rank_salute]
    decide
  have settled := (resolve_glossary stillSources greeting salute 3 ()).1 enough
  have unsettled := (resolve_glossary stillSources greeting salute 2 ()).2 tooFew
  rw [expand_salute] at settled
  exact ⟨⟨enough, settled⟩, tooFew, unsettled⟩

end PromptTree.Template
