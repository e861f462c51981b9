import Mathlib
import PromptTree.Proofs.Document.Obstacles
import PromptTree.Proofs.Document.Steps

/-!
Descriptions that are judged. A reader goes through lists, values to return and steps until it meets an
obstacle; one induction on the data for each says that this is what it stops for, and nothing else.
Main statement: a description without an obstacle makes a workflow or comes to problems, at least one;
an obstacle takes the place of both (`ofEntries_collects_problems`).
-/

namespace PromptTree.Document

open Reading

namespace Reading

/-! ### Lists -/

theorem clear_listField (path key : String) (v : Value) : (listField path key v).Clear := by
  unfold listField
  split <;> simp

theorem exists_mem_of_comes_listField {path key : String} {v : Value} {items : List Value}
    (comes : (listField path key v).Comes items) (holds : Value → Prop) :
    (∃ item ∈ items, holds item) ↔ ∃ listed, v = .list listed ∧ ∃ item ∈ listed, holds item := by
  unfold listField at comes
  split at comes
  · obtain rfl := comes_of.mp comes
    simp
  · obtain rfl := comes_of.mp comes
    simp
  · next noList =>
    obtain ⟨_, _, comes⟩ := comes_bind.mp comes
    obtain rfl := comes_pure.mp comes
    simp only [List.not_mem_nil, false_and, exists_false, false_iff]
    rintro ⟨listed, rfl, _⟩
    exact noList listed rfl

theorem stopsFor_numbered {α : Type} {read : String → Value → Reading (Option α)}
    {blocks : Value → Obstacle → Prop} (stops : ∀ path v, StopsFor (read path v) (blocks v))
    (path key : String) (i : Nat) (vs : List Value) :
    StopsFor (numbered read path key i vs) fun o => ∃ v ∈ vs, blocks v o := by
  induction vs generalizing i with
  | nil => exact .of_clear (clear_of []) (by simp)
  | cons v vs inductionHypothesis =>
    have rest (a : Option α) := (inductionHypothesis (i + 1)).before fun rest =>
      clear_pure (a.toList ++ rest)
    exact ((stops _ v).bind fun a _ => rest a).congr fun o => by simp

theorem stopsFor_listed {α γ : Type} {read : String → Value → Reading (Option α)}
    {blocks : Value → Obstacle → Prop} {path key : String} {v : Value} {next : List α → Reading γ}
    {more : Obstacle → Prop} (stops : ∀ path v, StopsFor (read path v) (blocks v))
    (later : ∀ as, StopsFor (next as) more) :
    StopsFor (listField path key v >>= fun items => numbered read path key 0 items >>= next)
      fun o => (∃ items, v = .list items ∧ ∃ item ∈ items, blocks item o) ∨ more o := by
  refine .after (clear_listField path key v) fun items itemsRead => ?_
  refine .bind ?_ fun as _ => later as
  exact (stopsFor_numbered stops path key 0 items).congr fun o =>
    exists_mem_of_comes_listField itemsRead _

/-! ### Values to return -/

theorem stopsFor_leaf (v : Value) : StopsFor (leaf v) fun o => o = .noText ∧ v.Wordless :=
  (stopsFor_text v).before fun _ => clear_pure _

theorem clear_itemName (path : String) (v : Value) : (itemName path v).Clear := by
  unfold itemName
  split
  · split <;> simp
  · exact clear_of none

theorem returnBlocks_map_iff {entries : Entries} :
    ReturnBlocks (.map entries) ↔
      (∃ items, Entries.get? entries "items" = some (.list items) ∧
        ∃ item ∈ items, ReturnBlocks item) ∨
      (Entries.get? entries "items" = none ∧ (fieldOf entries "value").Wordless) := by
  constructor
  · rintro (_ | ⟨isList, isItem, blocked⟩ | ⟨noItems, wordless⟩)
    · exact .inl ⟨_, isList, _, isItem, blocked⟩
    · exact .inr ⟨noItems, wordless⟩
  · rintro (⟨items, isList, item, isItem, blocked⟩ | ⟨noItems, wordless⟩)
    · exact .itemOfMap isList isItem blocked
    · exact .value noItems wordless

theorem get?_cons_key (key v : Value) (rest : Entries) (name : String) :
    Entries.get? ((key, v) :: rest) name =
      if key.same (.text name) then some v else Entries.get? rest name := rfl

theorem comes_itemsField {path : String} {hasValue : Bool} {entries : Entries}
    {found : Option Projection} (comes : (itemsField path hasValue entries).Comes found) :
    found = none ↔ Entries.get? entries "items" = none := by
  induction entries with
  | nil =>
    obtain rfl := comes_of.mp comes
    exact iff_of_true rfl rfl
  | cons entry rest inductionHypothesis =>
    obtain ⟨key, v⟩ := entry
    unfold itemsField at comes
    rw [get?_cons_key]
    split at comes
    · next isItems =>
      have isSome : found ≠ none := by
        rintro rfl
        split at comes <;> simp [comes_bind, comes_map] at comes
      simp [isItems, isSome]
    · next isOther =>
      rw [if_neg isOther]
      exact inductionHypothesis comes

mutual

theorem stopsFor_projection : (path : String) → (v : Value) →
    StopsFor (projection path v) fun o => o = .noText ∧ ReturnBlocks v
  | path, .list items => by
    unfold projection
    refine ((stopsFor_items path 0 items).before fun items => clear_pure _).congr fun o => ?_
    refine and_congr_right fun _ => ⟨?_, ?_⟩
    · rintro ⟨item, isItem, blocked⟩
      exact .item isItem blocked
    · rintro ⟨isItem, blocked⟩
      exact ⟨_, isItem, blocked⟩
  | path, .map entries => by
    unfold projection
    refine .after (clear_knownKeys _ _ _ _) fun _ _ => ?_
    have value : ∀ found,
        (itemsField path (Entries.get? entries "value").isSome entries).Comes found →
        StopsFor (match found with
          | some p => pure p
          | none => leaf (fieldOf entries "value")) fun o =>
            o = .noText ∧ Entries.get? entries "items" = none ∧
              (fieldOf entries "value").Wordless := by
      intro found foundRead
      rw [← comes_itemsField foundRead]
      cases found with
      | none => exact (stopsFor_leaf _).congr (by simp)
      | some p => exact .of_clear (clear_pure p) (by simp)
    refine ((stopsFor_itemsField path _ entries).bind value).congr fun o => ?_
    rw [returnBlocks_map_iff, and_or_left]
  | _, .null | _, .bool _ | _, .int _ | _, .float _ | _, .text _ => by
    unfold projection
    refine (stopsFor_leaf _).congr fun o => and_congr_right fun _ => ?_
    exact iff_of_false (by rintro ⟨⟩) (by rintro ⟨⟩)
  | _, .date _ | _, .moment _ | _, .bytes _ | _, .set _ => by
    unfold projection
    refine .of_clear (by simp) ?_
    rintro o ⟨_, ⟨⟩⟩
termination_by structural _ v => v

theorem stopsFor_itemsField : (path : String) → (hasValue : Bool) →
    (entries : List (Value × Value)) → StopsFor (itemsField path hasValue entries) fun o => o = .noText ∧
      ∃ items, Entries.get? entries "items" = some (.list items) ∧
        ∃ item ∈ items, ReturnBlocks item
  | _, _, [] => .of_clear (clear_of none) (by rintro o ⟨_, _, ⟨⟩, _⟩)
  | path, hasValue, (key, v) :: rest => by
    unfold itemsField
    rw [get?_cons_key]
    split
    · have list := (stopsFor_itemList path v).map some
      simp only [Option.some.injEq]
      split
      · exact .after (clear_note _ _) fun _ _ => list
      · exact list
    · exact stopsFor_itemsField path hasValue rest
termination_by structural _ _ entries => entries

theorem stopsFor_itemList : (path : String) → (v : Value) →
    StopsFor (itemList path v) fun o => o = .noText ∧
      ∃ items, v = .list items ∧ ∃ item ∈ items, ReturnBlocks item
  | path, .list items => by
    unfold itemList
    refine ((stopsFor_items path 0 items).before fun items => clear_pure _).congr ?_
    simp
  | _, .null | _, .bool _ | _, .int _ | _, .float _ | _, .text _ | _, .map _ | _, .date _
  | _, .moment _ | _, .bytes _ | _, .set _ => by
    unfold itemList
    refine .of_clear (by simp) ?_
    rintro o ⟨_, _, ⟨⟩, _⟩
termination_by structural _ v => v

theorem stopsFor_items : (path : String) → (i : Nat) → (vs : List Value) →
    StopsFor (items' path i vs) fun o => o = .noText ∧ ∃ v ∈ vs, ReturnBlocks v
  | _, _, [] => .of_clear (clear_of []) (by simp)
  | path, i, v :: vs => by
    unfold items'
    refine .after (clear_itemName _ _) fun name _ => ?_
    have rest (p : Projection) := (stopsFor_items path (i + 1) vs).before fun rest =>
      clear_pure ((name, p) :: rest)
    exact ((stopsFor_projection _ v).bind fun p _ => rest p).congr fun o => by
      simp [and_or_left]
termination_by structural _ _ vs => vs

end

/-! ### Steps -/

theorem clear_stepName (path : String) (entries : Entries) : (stepName path entries).Clear := by
  unfold stepName
  split <;> simp

theorem clear_prompt (path : String) (entries : Entries) : (prompt path entries).Clear := by
  unfold prompt
  split <;> simp

theorem stopsFor_returned (path : String) (entries : Entries) :
    StopsFor (returned path entries) fun o =>
      o = .noText ∧ ∃ v, Entries.get? entries "return" = some v ∧ ReturnBlocks v := by
  unfold returned
  cases Entries.get? entries "return" with
  | none => exact .of_clear (clear_of none) (by simp)
  | some v => exact ((stopsFor_projection _ v).map some).congr (by simp)

theorem clear_textResults (path : String) (parentReturns : Bool) (i : Nat) (children : List Step) :
    (textResults path parentReturns i children).Clear := by
  induction children generalizing i with
  | nil => exact clear_of ()
  | cons child children inductionHypothesis =>
    unfold textResults
    dsimp only
    split
    · split
      · simp [inductionHypothesis]
      · split <;> simp [inductionHypothesis]
    · exact inductionHypothesis (i + 1)

theorem fieldOf_cons_key (key v : Value) (rest : Entries) (name : String) :
    fieldOf ((key, v) :: rest) name =
      if key.same (.text name) then v else fieldOf rest name := by
  unfold fieldOf
  rw [get?_cons_key]
  split <;> rfl

theorem stepBlocks_map_iff {entries : Entries} {o : Obstacle} :
    StepBlocks (.map entries) o ↔
      (∃ items, fieldOf entries "vars" = .list items ∧ ∃ item ∈ items, DeclarationBlocks item o) ∨
      (∃ items, fieldOf entries "tests" = .list items ∧ ∃ item ∈ items, TestBlocks item o) ∨
      (o = .noText ∧ ∃ v, Entries.get? entries "return" = some v ∧ ReturnBlocks v) ∨
      (∃ items, fieldOf entries "steps" = .list items ∧ ∃ item ∈ items, StepBlocks item o) := by
  constructor
  · rintro (⟨isList, isItem, blocked⟩ | ⟨isList, isItem, blocked⟩ | ⟨given, blocked⟩ |
      ⟨isList, isItem, blocked⟩)
    · exact .inl ⟨_, isList, _, isItem, blocked⟩
    · exact .inr (.inl ⟨_, isList, _, isItem, blocked⟩)
    · exact .inr (.inr (.inl ⟨rfl, _, given, blocked⟩))
    · exact .inr (.inr (.inr ⟨_, isList, _, isItem, blocked⟩))
  · rintro (⟨items, isList, item, isItem, blocked⟩ | ⟨items, isList, item, isItem, blocked⟩ |
      ⟨rfl, v, given, blocked⟩ | ⟨items, isList, item, isItem, blocked⟩)
    · exact .variableOf isList isItem blocked
    · exact .test isList isItem blocked
    · exact .returned given blocked
    · exact .child isList isItem blocked

mutual

/-- A step is read until the first obstacle in it, its children included. -/
theorem stopsFor_step : (path : String) → (v : Value) → StopsFor (step path v) (StepBlocks v)
  | path, .map entries => by
    unfold step
    refine .after (clear_knownKeys _ _ _ _) fun _ _ => ?_
    refine .after (clear_stepName _ _) fun name _ => ?_
    refine .after (clear_prompt _ _) fun prompt _ => ?_
    refine .congr ?_ fun o => stepBlocks_map_iff.symm
    refine stopsFor_listed stopsFor_declaration fun declarations => ?_
    refine stopsFor_listed stopsFor_test fun validators => ?_
    refine (stopsFor_returned _ entries).bind fun returns _ => ?_
    refine (stopsFor_childrenOf _ entries).before fun children => ?_
    exact clear_bind.mpr ⟨clear_textResults _ _ _ _, fun _ _ => clear_pure _⟩
  | _, .null | _, .bool _ | _, .int _ | _, .float _ | _, .text _ | _, .list _ | _, .date _
  | _, .moment _ | _, .bytes _ | _, .set _ => by
    unfold step
    refine .of_clear (by simp) ?_
    rintro o ⟨⟩
termination_by structural _ v => v

theorem stopsFor_childrenOf : (path : String) → (entries : List (Value × Value)) →
    StopsFor (childrenOf path entries) fun o =>
      ∃ items, fieldOf entries "steps" = .list items ∧ ∃ item ∈ items, StepBlocks item o
  | _, [] => .of_clear (clear_of []) (by rintro o ⟨_, ⟨⟩, _⟩)
  | path, (key, v) :: rest => by
    unfold childrenOf
    rw [fieldOf_cons_key]
    split
    · exact stopsFor_stepList path v
    · exact stopsFor_childrenOf path rest
termination_by structural _ entries => entries

theorem stopsFor_stepList : (path : String) → (v : Value) →
    StopsFor (stepList path v) fun o =>
      ∃ items, v = .list items ∧ ∃ item ∈ items, StepBlocks item o
  | path, .list items => (stopsFor_steps path 0 items).congr (by simp)
  | _, .null => .of_clear (clear_of []) (by rintro o ⟨_, ⟨⟩, _⟩)
  | _, .bool _ | _, .int _ | _, .float _ | _, .text _ | _, .map _ | _, .date _ | _, .moment _
  | _, .bytes _ | _, .set _ => by
    unfold stepList
    refine .of_clear (by simp) ?_
    rintro o ⟨_, ⟨⟩, _⟩
termination_by structural _ v => v

theorem stopsFor_steps : (path : String) → (i : Nat) → (vs : List Value) →
    StopsFor (steps path i vs) fun o => ∃ v ∈ vs, StepBlocks v o
  | _, _, [] => .of_clear (clear_of []) (by simp)
  | path, i, v :: vs => by
    unfold steps
    have rest (child : Option Step) := (stopsFor_steps path (i + 1) vs).before fun rest =>
      clear_pure (child.toList ++ rest)
    exact ((stopsFor_step _ v).bind fun child _ => rest child).congr fun o => by simp
termination_by structural _ _ vs => vs

end

/-! ### Descriptions -/

theorem clear_version (entries : Entries) : (version entries).Clear := by
  unfold version
  split
  · simp
  · split <;> simp

theorem clear_topText (entries : Entries) (key : String) : (topText entries key).Clear := by
  unfold topText
  split <;> simp

theorem clear_backendEntries (entries : Entries) : (backendEntries entries).Clear := by
  induction entries with
  | nil => exact clear_of ()
  | cons entry rest inductionHypothesis =>
    unfold backendEntries backendEntry
    refine clear_bind.mpr ⟨?_, fun _ _ => inductionHypothesis⟩
    split
    · refine clear_bind.mpr ⟨clear_knownKeys _ _ _ _, fun _ _ => ?_⟩
      split <;> simp
    · exact clear_note _ _

theorem clear_backendsOf (entries : Entries) : (backendsOf entries).Clear := by
  unfold backendsOf
  split <;> simp [clear_backendEntries]

theorem stopsFor_contextOf (entries : Entries) :
    StopsFor (contextOf entries) fun o => o = .noText ∧
      ∃ given, Entries.get? entries "context" = some (.map given) ∧
        ∃ entry ∈ given, entry.2.Wordless := by
  unfold contextOf
  split
  · next absent => exact .of_clear (clear_of _) (by simp [absent])
  · next given found =>
    simp only [found, Option.some.injEq, Value.map.injEq, exists_eq_left']
    split
    · next scope made =>
      refine .of_clear (clear_of scope) ?_
      rintro o ⟨_, wordless⟩
      have noScope : Scope.ofValues given = .error .noText :=
        Scope.ofValues_eq_error_iff.mpr wordless
      rw [noScope] at made
      cases made
    · next e unmade =>
      have wordless := Scope.ofValues_eq_error_iff.mp unmade
      exact (StopsFor.stop .noText).congr fun o => by simp [wordless]
  · next noMap found =>
    refine .of_clear (by simp) ?_
    rintro o ⟨_, given, isMap, _⟩
    rw [found] at isMap
    cases isMap
    exact noMap given rfl

theorem stopsFor_rootOf (entries : Entries) :
    StopsFor (rootOf entries) fun o =>
      ∃ root, Entries.get? entries "root" = some root ∧ StepBlocks root o := by
  unfold rootOf
  cases Entries.get? entries "root" with
  | none => exact .of_clear (by simp) (by simp)
  | some root => exact (stopsFor_step _ root).congr (by simp)

theorem blocks_iff {entries : Entries} {o : Obstacle} :
    Blocks entries o ↔
      (o = .noText ∧ ∃ given, Entries.get? entries "context" = some (.map given) ∧
        ∃ entry ∈ given, entry.2.Wordless) ∨
      ∃ root, Entries.get? entries "root" = some root ∧ StepBlocks root o := by
  constructor
  · rintro (⟨isMap, isEntry, wordless⟩ | ⟨given, blocked⟩)
    · exact .inl ⟨rfl, _, isMap, _, isEntry, wordless⟩
    · exact .inr ⟨_, given, blocked⟩
  · rintro (⟨rfl, given, isMap, entry, isEntry, wordless⟩ | ⟨root, given, blocked⟩)
    · exact .context isMap isEntry wordless
    · exact .root given blocked

theorem stopsFor_document (entries : Entries) : StopsFor (document entries) (Blocks entries) := by
  unfold document
  refine .after (clear_version entries) fun version _ => ?_
  extract_lets rest
  have restStops : StopsFor (rest ()) (Blocks entries) := by
    refine .after (clear_topText _ _) fun name _ => ?_
    refine .after (clear_topText _ _) fun backend _ => ?_
    refine .after (clear_backendsOf _) fun backends _ => ?_
    refine .congr ?_ fun o => blocks_iff.symm
    refine (stopsFor_contextOf entries).bind fun context _ => ?_
    exact (stopsFor_rootOf entries).before fun root => clear_pure _
  split
  · exact restStops
  · exact .after (clear_knownKeys _ _ _ _) fun _ _ => restStops

theorem not_rootOf_gives_none (entries : Entries) : ¬ (rootOf entries).Gives none := by
  intro clean
  unfold rootOf at clean
  split at clean
  · obtain ⟨built, isBuilt, _⟩ := mirrors_of_gives _ clean
    cases isBuilt
  · simp at clean

theorem not_document_gives_none (entries : Entries) : ¬ (document entries).Gives none := by
  intro clean
  obtain ⟨version, _, clean⟩ := gives_bind.mp clean
  have noRoot := not_rootOf_gives_none entries
  dsimp only at clean
  split at clean <;>
    simp only [gives_bind, gives_pure, Option.map_eq_none_iff] at clean
  · obtain ⟨_, _, _, _, _, _, _, _, _, rootRead, rfl⟩ := clean
    exact noRoot rootRead
  · obtain ⟨_, _, _, _, _, _, _, _, _, _, _, rootRead, rfl⟩ := clean
    exact noRoot rootRead

end Reading

/-- The description is judged: it makes a workflow, or problems are found in it. -/
def Judged (entries : Entries) : Prop :=
  (∃ document, ofEntries entries = .ok document) ∨
    ∃ problems, problems ≠ [] ∧ ofEntries entries = .error (.problems problems)

/-- A description with no obstacle in it is judged, whatever it holds otherwise. One that has an
obstacle is not: the first obstacle that is met takes the place of a workflow and of all problems. -/
theorem ofEntries_collects_problems (entries : Entries) :
    ((∀ o, ¬ Blocks entries o) → Judged entries) ∧
      ∀ o, Blocks entries o →
        ∃ met, Blocks entries met ∧ ofEntries entries = .error (.obstacle met) := by
  have stops := stopsFor_document entries
  have found := not_document_gives_none entries
  unfold Judged ofEntries
  generalize Reading.document entries = reading at stops found ⊢
  constructor
  · intro unblocked
    rcases reading with met | ⟨_ | document, _ | ⟨problem, problems⟩⟩
    · exact absurd (stops.only met rfl) (unblocked met)
    · exact absurd rfl found
    · exact .inr ⟨_, by simp, rfl⟩
    · exact .inl ⟨document, rfl⟩
    · exact .inr ⟨_, by simp, rfl⟩
  · intro o blocked
    obtain ⟨met, isMet⟩ := stops.meets o blocked
    refine ⟨met, stops.only met isMet, ?_⟩
    cases isMet
    rfl

def oneVariable (fields : List (String × Value)) : Entries :=
  Entries.ofFields [("version", .text "1"),
    ("root", .map (Entries.ofFields [("vars", .list [.map (Entries.ofFields fields)])]))]

/-- A download of which as much is to be kept as a value says. -/
def limitedPage (limit : Value) : Entries :=
  oneVariable [("name", .text "page"), ("source", .text "download"), ("url", .text "a:b"),
    ("limit", limit)]

theorem ofEntries_collects_problems_limitedPage :
    ((∀ o, ¬ Blocks (limitedPage (.int (-1))) o) ∧ Judged (limitedPage (.int (-1)))) ∧
      Blocks (limitedPage (.float (.infinite false))) .limitInfinite ∧
        ∃ met, ofEntries (limitedPage (.float (.infinite false))) = .error (.obstacle met) := by
  have unblocked : ∀ o, ¬ Blocks (limitedPage (.int (-1))) o := by
    rintro o (⟨⟨⟩, _, _⟩ | ⟨⟨⟩, blocked⟩)
    rcases blocked with ⟨⟨⟩, isItem, blocked⟩ | ⟨⟨⟩, _, _⟩ | ⟨⟨⟩, _⟩ | ⟨⟨⟩, _, _⟩
    obtain rfl := List.mem_singleton.mp isItem
    obtain ⟨_, _, blocked⟩ := blocked
    rcases blocked with ⟨_, ⟨⟩, structured⟩ | ⟨⟨⟩, _⟩ | ⟨⟨⟩, _, _, _⟩ | ⟨⟨⟩, _⟩ | ⟨_, _, _, ⟨⟩⟩
    simp [Value.asList?, Value.asMap?] at structured
  have blocked : Blocks (limitedPage (.float (.infinite false))) .limitInfinite :=
    .root rfl (.variableOf rfl (List.mem_singleton_self _)
      (.map rfl (by decide) (.limit rfl rfl (by decide) rfl)))
  obtain ⟨met, _, stopped⟩ := (ofEntries_collects_problems _).2 _ blocked
  exact ⟨⟨unblocked, (ofEntries_collects_problems _).1 unblocked⟩, blocked, met, stopped⟩

/-- Not every description is judged: an infinite limit is an obstacle, not a problem. -/
theorem not_all_judged : ¬ ∀ entries, Judged entries := by
  intro judged
  have stopped : ofEntries (limitedPage (.float (.infinite false))) =
      .error (.obstacle .limitInfinite) := by
    cbv
  rcases judged (limitedPage (.float (.infinite false))) with ⟨_, made⟩ | ⟨_, _, found⟩
  · rw [stopped] at made
    cases made
  · rw [stopped] at found
    cases found

end PromptTree.Document
