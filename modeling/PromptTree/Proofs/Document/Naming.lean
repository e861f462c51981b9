import Mathlib
import PromptTree.Proofs.Document.Fields
import PromptTree.Proofs.Template.Expansion

/-!
The names of variables and the references to them. A name that a description may give to a variable
has no character that means anything inside a reference (`plain_of_isName`), so a reference to it is
read as a whole; but it may still begin as a capture, or be the name of a built-in function. Main
statement: a reference to any other name comes to the text that the name has (`resolve_referenceTo`).
-/

namespace PromptTree.Document

open Reading

variable {β : Type}

def referenceTo (name : String) : String :=
  .ofList ('$' :: '\x7b' :: name.toList ++ ['\x7d'])

/-- In a reference the name stands for something else: it begins as a capture, or is the name of a
built-in function. -/
def IsReserved (name : String) : Prop :=
  name.toList.head? = some '>' ∨ name ∈ Template.functionNames

instance (name : String) : Decidable (IsReserved name) := by
  unfold IsReserved
  infer_instance

theorem Declares.named {entries : Entries} {d : Declaration}
    (declares : Declares (.map entries) d) : fieldOf entries "name" = .text d.name := by
  cases declares with
  | fixed _ named _ => exact named
  | generated _ named _ _ _ _ => exact named
  | download _ named _ _ _ _ => exact named

theorem isName_of_gives {path : String} {v : Value} {declared : Declaration}
    (accepted : (declaration path v).Gives (some declared)) : isName declared.name = true := by
  unfold declaration at accepted
  split at accepted
  · next entries =>
    simp only [gives_bind] at accepted
    obtain ⟨_, only, accepted⟩ := accepted
    split at accepted
    · next name found =>
      obtain ⟨isText, named⟩ := Option.filter_eq_some_iff.mp found
      have stands := Value.asText?_eq_some_iff.mp isText
      obtain ⟨_, ⟨⟩, declares⟩ := named_of_gives accepted (onlyFields_of_gives only) stands
      obtain rfl := Value.text.inj (stands.symm.trans declares.named)
      exact named
    · simp at accepted
  · simp at accepted

theorem plain_of_isName {name : String} (named : isName name = true) :
    ∀ c ∈ name.toList, c ≠ '$' ∧ c ≠ '\x7b' ∧ c ≠ '\x7d' ∧ c ≠ '|' := by
  have plainChar {c : Char} (isChar : isNameChar c = true) :
      c ≠ '$' ∧ c ≠ '\x7b' ∧ c ≠ '\x7d' ∧ c ≠ '|' := by
    simpa [isNameChar] using (Bool.and_eq_true_iff.mp isChar).2
  unfold isName at named
  dsimp only at named
  by_cases ends : name.toList.getLast? = some '\n'
  · rw [if_pos ends, Bool.and_eq_true, List.all_eq_true] at named
    intro c isChar
    rw [← List.dropLast_append_getLast? _ ends, List.mem_append, List.mem_singleton] at isChar
    rcases isChar with isChar | rfl
    · exact plainChar (named.2 c isChar)
    · decide
  · rw [if_neg ends, Bool.and_eq_true, List.all_eq_true] at named
    exact fun c isChar => plainChar (named.2 c isChar)

theorem flat_of_isName {name : String} (named : isName name = true) :
    ∀ c ∈ name.toList, c ≠ '$' ∧ c ≠ '\x7b' ∧ c ≠ '\x7d' := by
  intro c isChar
  obtain ⟨noMark, noOpening, noClosing, _⟩ := plain_of_isName named c isChar
  exact ⟨noMark, noOpening, noClosing⟩

section

variable (sources : Template.Sources β)

/-- A pass leaves a text without a mark as it is. -/
theorem result_pass_of_unmarked {text : List Char} (unmarked : '$' ∉ text)
    (r : Template.Resolution β) : result (Template.pass sources text) r = (.ok text, r) := by
  unfold Template.pass
  rw [Template.read_of_unmarked unmarked, Template.result_evalAll_map_char]

/-- A pass replaces a reference by the value of its command. -/
theorem result_pass_referenceTo {name : String} {value : List Char}
    (flat : ∀ c ∈ name.toList, c ≠ '$' ∧ c ≠ '\x7b' ∧ c ≠ '\x7d')
    (noCapture : name.toList.head? ≠ some '>') {r : Template.Resolution β}
    (performed : ∀ raw, ∃ s, result
      (Template.Resolving.perform sources raw (.ofBody name.toList)) r = (.ok value, s)) :
    ∃ s, result (Template.pass sources (referenceTo name).toList) r = (.ok value, s) := by
  have whole : Template.Piece.read (referenceTo name).toList =
      [.reference (name.toList.map .char) none] := by
    have found : Template.Piece.read ('$' :: '\x7b' :: (name.toList ++ ['\x7d'])) =
        .reference (name.toList.map .char) none :: Template.Piece.read [] :=
      Template.read_of_flat flat []
    have nothing := Template.read_of_unmarked (List.not_mem_nil (a := '$'))
    rw [referenceTo, String.toList_ofList, List.cons_append, List.cons_append, found, nothing,
      List.map_nil]
  have noCaptureToo : ¬ (Template.Piece.rawAll (name.toList.map .char)).head? = some '>' := by
    rwa [Template.Piece.rawAll_map_char]
  obtain ⟨s, done⟩ := performed (Template.Piece.reference (name.toList.map .char) none).raw
  obtain ⟨t, ended, _⟩ := Template.result_eval_reference sources noCaptureToo
    (Template.result_evalAll_map_char sources name.toList r) done
  refine ⟨t, ?_⟩
  unfold Template.pass
  rw [whole, ended]

/-- A reference whose command has a value without a mark comes to that value: the second pass finds
nothing to replace. -/
theorem outcome_referenceTo {name : String} {value : List Char}
    (flat : ∀ c ∈ name.toList, c ≠ '$' ∧ c ≠ '\x7b' ∧ c ≠ '\x7d')
    (noCapture : name.toList.head? ≠ some '>') {scope : Scope} {b : β}
    (performed : ∀ raw, ∃ s, result (Template.Resolving.perform sources raw
      (.ofBody name.toList)) ⟨scope, [], b⟩ = (.ok value, s))
    (still : '$' ∉ value) {passes : Int} (enough : 2 ≤ passes) :
    (Template.resolve sources passes (referenceTo name) scope b).outcome = .ok (.ofList value) := by
  obtain ⟨more, isPasses⟩ : ∃ more, passes.toNat = more + 2 := ⟨passes.toNat - 2, by omega⟩
  obtain ⟨s, passed⟩ := result_pass_referenceTo sources flat noCapture performed
  have passedAgain := result_pass_of_unmarked sources still s
  obtain ⟨t, ended⟩ := Template.result_settle_of_two_passes sources passed passedAgain more
  rw [Template.outcome_resolve, isPasses, ended]

/-- A reference to a name that a description may give to a variable comes to the text that the name
has, unless the name is reserved. -/
theorem resolve_referenceTo {path : String} {v : Value} {declared : Declaration}
    (accepted : (declaration path v).Gives (some declared))
    (unreserved : ¬ IsReserved declared.name) {scope : Scope} {value : String}
    (bound : scope.get? declared.name = some value) (still : '$' ∉ value.toList) {passes : Int}
    (enough : 2 ≤ passes) (b : β) :
    (Template.resolve sources passes (referenceTo declared.name) scope b).outcome = .ok value := by
  have named := isName_of_gives accepted
  rw [IsReserved, not_or] at unreserved
  have asks : Template.Command.ofBody declared.name.toList = .lookup declared.name.toList := by
    apply Template.ofBody_of_not_function
    · exact fun isBar => (plain_of_isName named _ isBar).2.2.2 rfl
    · intro function isFunction same
      exact unreserved.2 (String.toList_inj.mp same ▸ isFunction)
  have found : ∀ raw, ∃ s, result (Template.Resolving.perform sources raw
      (.ofBody declared.name.toList)) ⟨scope, [], b⟩ = (.ok value.toList, s) := by
    intro raw
    obtain ⟨s, looked, _⟩ :=
      Template.result_perform_lookup sources raw declared.name.toList ⟨scope, [], b⟩
    rw [String.ofList_toList, bound] at looked
    rw [asks]
    exact ⟨s, looked⟩
  have ended :=
    outcome_referenceTo sources (flat_of_isName named) unreserved.1 found still enough
  rwa [String.ofList_toList] at ended

end

def describedAs (name : String) : Value :=
  .map (Entries.ofFields [("name", .text name), ("source", .text "ai")])

def filledIn (name : String) : Declaration :=
  .generated ⟨name, none, false, []⟩

theorem gives_filledIn {name : String} (named : isName name = true) (path : String) :
    (declaration path (describedAs name)).Gives (some (filledIn name)) := by
  have accepted : (some name).filter isName = some name := by simp [named]
  have stands : fieldOf (Entries.ofFields [("name", .text name), ("source", .text "ai")]) "name" =
      .text name := rfl
  unfold describedAs declaration
  rw [gives_bind]
  refine ⟨(), rfl, ?_⟩
  simp only [stands, Value.asText?, accepted]
  rfl

theorem resolve_referenceTo_dated :
    let name := "@dated>\n"
    let scope := Scope.ofPairs [("@dated", "no"), (name, "yes, \x7d")]
    (declaration "" (describedAs name)).Gives (some (filledIn name)) ∧
      ¬ IsReserved (filledIn name).name ∧
      scope.get? (filledIn name).name = some "yes, \x7d" ∧ '$' ∉ "yes, \x7d".toList ∧ (2 : Int) ≤ 2 ∧
      (Template.resolve Template.stillSources 2 (referenceTo name) scope ()).outcome =
        .ok "yes, \x7d" := by
  intro name scope
  have accepted := gives_filledIn (show isName name = true by decide) ""
  have unreserved : ¬ IsReserved (filledIn name).name := by decide
  have bound : scope.get? (filledIn name).name = some "yes, \x7d" := by decide
  have still : '$' ∉ "yes, \x7d".toList := by decide
  have enough : (2 : Int) ≤ 2 := by decide
  exact ⟨accepted, unreserved, bound, still, enough,
    resolve_referenceTo Template.stillSources accepted unreserved bound still enough ()⟩

/-- A description may give a variable the name, but a reference to it comes to something else than
the text that the name has. -/
def IsMisread (name comesTo : String) : Prop :=
  (declaration "" (describedAs name)).Gives (some (filledIn name)) ∧
    (Scope.ofPairs [(name, "here")]).get? name = some "here" ∧
    (Template.resolve Template.stillSources Template.defaultPasses (referenceTo name)
      (.ofPairs [(name, "here")]) ()).outcome = .ok comesTo ∧ comesTo ≠ "here"

theorem isMisread_of_performed {name : String} {value : List Char} (named : isName name = true)
    (noCapture : name.toList.head? ≠ some '>')
    (performed : ∀ raw, ∃ s, result (Template.Resolving.perform Template.stillSources raw
      (.ofBody name.toList)) ⟨.ofPairs [(name, "here")], [], ()⟩ = (.ok value, s))
    (still : '$' ∉ value) (differs : String.ofList value ≠ "here") :
    IsMisread name (.ofList value) := by
  have bound : (Scope.ofPairs [(name, "here")]).get? name = some "here" := by
    simp [Scope.ofPairs, Scope.writeAll]
  exact ⟨gives_filledIn named "", bound,
    outcome_referenceTo Template.stillSources (flat_of_isName named) noCapture performed still
      (by decide), differs⟩

theorem not_every_referenceTo_resolves :
    IsMisread ">x" "$\x7b>x\x7d" ∧ IsMisread "@autocamel" "" ∧ IsMisread "@tee" "" ∧
      IsMisread "@date" "2024-01-01 00:00:00" ∧ IsMisread "@rand" "00000000" := by
  have dated : IsMisread "@date" "2024-01-01 00:00:00" := by
    have resolved : Calendar.resolveMoment (some (.ofList "now".toList))
        (Template.stillSources.now ()).1 = .ok (Template.stillSources.now ()).1 := by
      decide +kernel
    have written : (Template.stillSources.now ()).1.format "%Y-%m-%d %H:%M:%S" =
        "2024-01-01 00:00:00" := by cbv
    have asks : Template.Command.ofBody "@date".toList =
        .date "%Y-%m-%d %H:%M:%S".toList "now".toList := rfl
    have performed (raw : List Char) := Template.result_perform_date Template.stillSources raw
      "%Y-%m-%d %H:%M:%S".toList (r := ⟨.ofPairs [("@date", "here")], [], ()⟩) resolved
    rw [String.ofList_toList, written, ← asks] at performed
    exact isMisread_of_performed (by decide) (by decide) performed (by decide) (by decide)
  refine ⟨?_, ?_, ?_, dated, ?_⟩
  · exact ⟨gives_filledIn (by decide) "", by decide, by cbv, by decide⟩
  · exact isMisread_of_performed (by decide) (by decide) (fun raw => ⟨_, rfl⟩) (by decide)
      (by decide)
  · exact isMisread_of_performed (by decide) (by decide) (fun raw => ⟨_, rfl⟩) (by decide)
      (by decide)
  · exact isMisread_of_performed (by decide) (by decide) (fun raw => ⟨_, rfl⟩) (by decide)
      (by decide)

end PromptTree.Document
