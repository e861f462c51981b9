import PromptTree.Document.Tree
import PromptTree.Proofs.Document.Fields

/-!
Steps that are read without a problem. Main statement: such a step mirrors its data, and no child of
its nodes that returns a text stands where this cannot be used (`mirrors_of_gives`). Both follow
from one induction on the data, as the reader goes through it.
-/

namespace PromptTree.Document.Reading

/-! ### Projections -/

theorem returns_of_gives_leaf {v : Value} {projection : Projection} (noMap : v.asMap? = none)
    (noList : v.asList? = none) (clean : (leaf v).Gives projection) : Returns v projection := by
  simp only [leaf, gives_bind, gives_pure] at clean
  obtain ⟨text, read, rfl⟩ := clean
  exact .text noMap noList (text_of_gives read)

theorem itemName_of_gives {path : String} {v : Value} {name : Option String}
    (clean : (itemName path v).Gives name) : ItemName v name := by
  unfold itemName at clean
  split at clean
  · split at clean
    · next absent =>
      obtain rfl := gives_of.mp clean
      exact .map (absent ▸ .absent)
    · next s stands =>
      obtain rfl := gives_of.mp clean
      exact .map (stands ▸ textField_of_isEmpty s)
    · simp at clean
  · next noMap =>
    obtain rfl := gives_of.mp clean
    refine .other ?_
    cases v with
    | map entries => exact absurd rfl (noMap entries)
    | _ => rfl

mutual

/-- A projection that is read without a problem is the one that its data describes. -/
theorem returns_of_gives : (v : Value) → {path : String} → {read : Projection} →
    (projection path v).Gives read → Returns v read
  | .list raw, _, _, clean => by
    simp only [projection, gives_bind, gives_pure] at clean
    obtain ⟨items, itemsRead, rfl⟩ := clean
    exact .list (returnsItems_of_gives raw itemsRead)
  | .map entries, _, _, clean => by
    simp only [projection, gives_bind] at clean
    obtain ⟨_, only, found, foundRead, clean⟩ := clean
    have only := onlyFields_of_gives only
    rcases returns_of_gives_field entries foundRead with
      ⟨rfl, noItems⟩ | ⟨raw, items, rfl, noValue, isList, described⟩
    · simp only [leaf, gives_bind, gives_pure] at clean
      obtain ⟨text, textRead, rfl⟩ := clean
      exact .value only noItems (text_of_gives textRead)
    · obtain rfl := gives_pure.mp clean
      exact .items only isList (by simpa using noValue) described
  | .null, _, _, clean | .bool _, _, _, clean | .int _, _, _, clean | .float _, _, _, clean
  | .text _, _, _, clean => returns_of_gives_leaf rfl rfl clean
  | .date _, _, _, clean | .moment _, _, _, clean | .bytes _, _, _, clean
  | .set _, _, _, clean => by simp [projection] at clean
termination_by structural v => v

/-- The field for the items is absent, or it is the only one for the value and its items are
described. -/
theorem returns_of_gives_field :
    (entries : List (Value × Value)) → {path : String} → {hasValue : Bool} →
      {found : Option Projection} → (itemsField path hasValue entries).Gives found →
      found = none ∧ Entries.get? entries "items" = none ∨
        ∃ raw items, found = some (.ofItems items) ∧ hasValue = false ∧
          Entries.get? entries "items" = some (.list raw) ∧ ReturnsItems raw items
  | [], _, _, _, clean => .inl ⟨(gives_of.mp clean).symm, rfl⟩
  | (key, v) :: rest, _, _, _, clean => by
    unfold itemsField at clean
    split at clean
    · next isItems =>
      split at clean
      · simp at clean
      · next noValue =>
        simp only [gives_map] at clean
        obtain ⟨_, listRead, rfl⟩ := clean
        obtain ⟨raw, items, rfl, rfl, described⟩ := returns_of_gives_list v listRead
        refine .inr ⟨raw, items, rfl, by simpa using noValue, ?_, described⟩
        simp [Entries.get?, Entries.find?, isItems]
    · next isOther =>
      have same : Entries.get? ((key, v) :: rest) "items" = Entries.get? rest "items" := by
        simp [Entries.get?, Entries.find?, isOther]
      rw [same]
      exact returns_of_gives_field rest clean
termination_by structural entries => entries

theorem returns_of_gives_list : (v : Value) → {path : String} → {read : Projection} →
    (itemList path v).Gives read →
      ∃ raw items, v = .list raw ∧ read = .ofItems items ∧ ReturnsItems raw items
  | .list raw, _, _, clean => by
    simp only [itemList, gives_bind, gives_pure] at clean
    obtain ⟨items, itemsRead, rfl⟩ := clean
    exact ⟨raw, items, rfl, rfl, returnsItems_of_gives raw itemsRead⟩
  | .null, _, _, clean | .bool _, _, _, clean | .int _, _, _, clean | .float _, _, _, clean
  | .text _, _, _, clean | .map _, _, _, clean | .date _, _, _, clean | .moment _, _, _, clean
  | .bytes _, _, _, clean | .set _, _, _, clean => by simp [itemList] at clean
termination_by structural v => v

theorem returnsItems_of_gives : (vs : List Value) → {path : String} → {i : Nat} →
    {items : List (Option String × Projection)} → (items' path i vs).Gives items →
    ReturnsItems vs items
  | [], _, _, _, clean => by
    obtain rfl := gives_of.mp clean
    exact .nil
  | v :: vs, _, _, _, clean => by
    simp only [items', gives_bind, gives_pure] at clean
    obtain ⟨name, nameRead, first, firstRead, rest, restRead, rfl⟩ := clean
    exact .cons (itemName_of_gives nameRead) (returns_of_gives v firstRead)
      (returnsItems_of_gives vs restRead)
termination_by structural vs => vs

end

/-! ### Steps -/

theorem stepName_of_gives {path name : String} {entries : Entries}
    (clean : (stepName path entries).Gives name) :
    usedField? entries "name" = none ∧ name = "" ∨
      usedField? entries "name" = some (.text name) := by
  unfold stepName at clean
  split at clean
  · next unused =>
    obtain rfl := gives_of.mp clean
    exact .inl ⟨unused, rfl⟩
  · next s used =>
    obtain rfl := gives_of.mp clean
    exact .inr used
  · simp at clean

theorem prompt_of_gives {path : String} {entries : Entries} {kept : Option String}
    (clean : (prompt path entries).Gives kept) : TextField (fieldOf entries "prompt") kept := by
  unfold prompt at clean
  split at clean
  · next absent =>
    obtain rfl := gives_of.mp clean
    exact absent ▸ .absent
  · next s stands =>
    obtain rfl := gives_of.mp clean
    exact stands ▸ textField_of_isEmpty s
  · simp at clean

theorem returned_of_gives {path : String} {entries : Entries} {returns : Option Projection}
    (clean : (returned path entries).Gives returns) :
    Option.Rel Returns (Entries.get? entries "return") returns := by
  unfold returned at clean
  split at clean
  · next v found =>
    simp only [gives_map] at clean
    obtain ⟨projection, read, rfl⟩ := clean
    exact found ▸ .some (returns_of_gives v read)
  · next absent =>
    obtain rfl := gives_of.mp clean
    exact absent ▸ .none

theorem gives_textResults_cons {path : String} {parentReturns : Bool} {i : Nat} {child : Step}
    {children : List Step} {u : Unit} :
    (textResults path parentReturns i (child :: children)).Gives u ↔
      (child.yieldsText = true → children = [] ∧ parentReturns = false) ∧
        (textResults path parentReturns (i + 1) children).Gives u := by
  rw [textResults]
  generalize textResults path parentReturns (i + 1) children = rest
  cases children <;> cases parentReturns <;> by_cases yields : child.yieldsText = true <;>
    simp [yields]

/-- Nothing is wrong with the children just if one that returns a text is the last of a step that
returns nothing of its own. -/
theorem gives_textResults_iff {path : String} {parentReturns : Bool} {i : Nat}
    {children : List Step} {u : Unit} :
    (textResults path parentReturns i children).Gives u ↔
      ∀ before child after, children = before ++ child :: after → child.yieldsText = true →
        after = [] ∧ parentReturns = false := by
  induction children generalizing i with
  | nil => simp [textResults]
  | cons first rest inductionHypothesis =>
    rw [gives_textResults_cons, inductionHypothesis]
    constructor
    · rintro ⟨isFirst, later⟩ (_ | ⟨head, before⟩) child after cut yields
      · cases cut
        exact isFirst yields
      · cases cut
        exact later before child after rfl yields
    · intro last
      refine ⟨last [] first rest rfl, ?_⟩
      rintro before child after rfl
      exact last (first :: before) child after rfl

mutual

/-- A step that is read without a problem is never left out, it mirrors its data, and it is text
safe. -/
theorem mirrors_of_gives : (v : Value) → {path : String} → {read : Option Step} →
    (step path v).Gives read → ∃ built, read = some built ∧ Mirrors v built ∧ built.TextSafe
  | .map entries, _, _, clean => by
    simp only [step, gives_bind, gives_pure] at clean
    obtain ⟨_, only, name, nameRead, prompt, promptRead, declared, declaredRead, declarations,
      declarationsRead, tests, testsRead, validators, validatorsRead, returns, returnsRead,
      children, childrenRead, _, textRead, rfl⟩ := clean
    obtain ⟨steps, listed, mirrored, safe⟩ := mirrors_of_gives_field entries childrenRead
    have declares : List.Forall₂ Declares declared declarations :=
      forall₂_of_numbered (fun _ _ _ clean => declares_of_gives clean) declarationsRead
    have tested : List.Forall₂ Tests tests validators :=
      forall₂_of_numbered (fun _ _ _ clean => tests_of_gives clean) validatorsRead
    refine ⟨_, rfl, ?_, Step.textSafe_iff.mpr ⟨?_, safe⟩⟩
    · exact .step (onlyFields_of_gives only) (stepName_of_gives nameRead)
        (prompt_of_gives promptRead) (listed_of_gives declaredRead) declares
        (listed_of_gives testsRead) tested (returned_of_gives returnsRead) listed mirrored
    · intro before child after cut yields
      have last := gives_textResults_iff.mp textRead before child after cut yields
      exact ⟨last.1, by simpa using last.2⟩
  | .null, _, _, clean | .bool _, _, _, clean | .int _, _, _, clean | .float _, _, _, clean
  | .text _, _, _, clean | .list _, _, _, clean | .date _, _, _, clean | .moment _, _, _, clean
  | .bytes _, _, _, clean | .set _, _, _, clean => by simp [step] at clean
termination_by structural v => v

theorem mirrors_of_gives_field : (entries : List (Value × Value)) → {path : String} →
    {children : List Step} → (childrenOf path entries).Gives children →
      ∃ raw, Listed entries "steps" raw ∧ List.Forall₂ Mirrors raw children ∧
        ∀ child ∈ children, child.TextSafe
  | [], _, _, clean => by
    obtain rfl := gives_of.mp clean
    exact ⟨[], .absent rfl, .nil, by simp⟩
  | (key, v) :: rest, _, _, clean => by
    unfold childrenOf at clean
    split at clean
    · next isSteps =>
      have held : fieldOf ((key, v) :: rest) "steps" = v := by
        simp [fieldOf, Entries.get?, Entries.find?, isSteps]
      obtain ⟨raw, ⟨rfl, rfl⟩ | rfl, described⟩ := mirrors_of_gives_list v clean
      · exact ⟨[], .absent held, described⟩
      · exact ⟨raw, .list held, described⟩
    · next isOther =>
      have held : fieldOf ((key, v) :: rest) "steps" = fieldOf rest "steps" := by
        simp [fieldOf, Entries.get?, Entries.find?, isOther]
      obtain ⟨raw, listed, described⟩ := mirrors_of_gives_field rest clean
      refine ⟨raw, ?_, described⟩
      cases listed with
      | absent absent => exact .absent (held.trans absent)
      | list isList => exact .list (held.trans isList)
termination_by structural entries => entries

theorem mirrors_of_gives_list : (v : Value) → {path : String} → {children : List Step} →
    (stepList path v).Gives children →
      ∃ raw, (v = .null ∧ raw = [] ∨ v = .list raw) ∧ List.Forall₂ Mirrors raw children ∧
        ∀ child ∈ children, child.TextSafe
  | .null, _, _, clean => by
    obtain rfl := gives_of.mp clean
    exact ⟨[], .inl ⟨rfl, rfl⟩, .nil, by simp⟩
  | .list raw, _, _, clean => ⟨raw, .inr rfl, mirrors_of_gives_steps raw clean⟩
  | .bool _, _, _, clean | .int _, _, _, clean | .float _, _, _, clean | .text _, _, _, clean
  | .map _, _, _, clean | .date _, _, _, clean | .moment _, _, _, clean | .bytes _, _, _, clean
  | .set _, _, _, clean => by simp [stepList] at clean
termination_by structural v => v

theorem mirrors_of_gives_steps : (vs : List Value) → {path : String} → {i : Nat} →
    {children : List Step} → (steps path i vs).Gives children →
      List.Forall₂ Mirrors vs children ∧ ∀ child ∈ children, child.TextSafe
  | [], _, _, _, clean => by
    obtain rfl := gives_of.mp clean
    exact ⟨.nil, by simp⟩
  | v :: vs, _, _, _, clean => by
    simp only [steps, gives_bind, gives_pure] at clean
    obtain ⟨child, childRead, rest, restRead, rfl⟩ := clean
    obtain ⟨built, rfl, mirrors, safe⟩ := mirrors_of_gives v childRead
    have others := mirrors_of_gives_steps vs restRead
    exact ⟨.cons mirrors others.1, List.forall_mem_cons.mpr ⟨safe, others.2⟩⟩
termination_by structural vs => vs

end

end PromptTree.Document.Reading
