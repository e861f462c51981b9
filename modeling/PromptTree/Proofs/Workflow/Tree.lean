import PromptTree.Workflow.Step

/-!
The nodes of a tree of steps, and which of its steps returns a text. Main statement: something holds
at every node of a tree if it holds at its root and at every node of its children
(`forall_nodes_iff`).
-/

namespace PromptTree.Step

mutual

/-- The steps of a tree, each before its children. -/
def nodes : Step → List Step
  | ⟨name, prompt, declarations, validators, returns, children⟩ =>
    ⟨name, prompt, declarations, validators, returns, children⟩ :: nodesOf children
termination_by structural s => s

def nodesOf : List Step → List Step
  | [] => []
  | child :: children => child.nodes ++ nodesOf children
termination_by structural children => children

end

theorem nodes_eq (step : Step) : step.nodes = step :: nodesOf step.children := by
  cases step
  rfl

theorem mem_nodes_self (step : Step) : step ∈ step.nodes := by
  rw [nodes_eq]
  exact List.mem_cons_self

theorem mem_nodesOf_iff {node : Step} {children : List Step} :
    node ∈ nodesOf children ↔ ∃ child ∈ children, node ∈ child.nodes := by
  induction children with
  | nil => simp [nodesOf]
  | cons child children inductionHypothesis => simp [nodesOf, inductionHypothesis]

theorem forall_nodes_iff {holds : Step → Prop} {step : Step} :
    (∀ node ∈ step.nodes, holds node) ↔
      holds step ∧ ∀ child ∈ step.children, ∀ node ∈ child.nodes, holds node := by
  rw [nodes_eq, List.forall_mem_cons]
  refine and_congr_right fun _ => ?_
  constructor
  · intro all child isChild node isNode
    exact all node (mem_nodesOf_iff.mpr ⟨child, isChild, isNode⟩)
  · intro all node isNode
    obtain ⟨child, isChild, isNode⟩ := mem_nodesOf_iff.mp isNode
    exact all child isChild node isNode

mutual

/-- Something holds of every tree if it holds of a tree whenever it holds of its children. -/
theorem byChildren {holds : Step → Prop}
    (hereditary : ∀ step : Step, (∀ child ∈ step.children, holds child) → holds step) :
    (step : Step) → holds step
  | ⟨_, _, _, _, _, children⟩ => hereditary _ (byChildrenOf hereditary children)
termination_by structural step => step

theorem byChildrenOf {holds : Step → Prop}
    (hereditary : ∀ step : Step, (∀ child ∈ step.children, holds child) → holds step) :
    (children : List Step) → ∀ child ∈ children, holds child
  | [] => by simp
  | child :: children => List.forall_mem_cons.mpr
    ⟨byChildren hereditary child, byChildrenOf hereditary children⟩
termination_by structural children => children

end

theorem yieldsText_of_returns {step : Step} {projection : Projection}
    (returned : step.returns = some projection) : step.yieldsText = projection.isLeaf := by
  cases step
  cases returned
  rfl

theorem yieldsText_of_no_returns {step : Step} (returned : step.returns = none) :
    step.yieldsText = lastYieldsText step.children := by
  cases step
  cases returned
  rfl

/-- A child that returns a text is the last one, and the step returns nothing of its own. -/
def TextLast (step : Step) : Prop :=
  ∀ before child after, step.children = before ++ child :: after → child.yieldsText = true →
    after = [] ∧ step.returns = none

/-- At every node of the tree, a child that returns a text is the last one of a step that returns
nothing of its own. -/
def TextSafe (step : Step) : Prop :=
  ∀ node ∈ step.nodes, node.TextLast

theorem textSafe_iff {step : Step} :
    step.TextSafe ↔ step.TextLast ∧ ∀ child ∈ step.children, child.TextSafe :=
  forall_nodes_iff

/-! ### Steps that are run one after the other -/

/-- After some steps there is a text; `before` says whether there was one before them. -/
def textAfter (before : Bool) : List Step → Bool
  | [] => before
  | step :: steps => textAfter step.yieldsText steps

/-- No step follows a text; `before` says whether there is one before them. -/
def NoneAfterText (before : Bool) : List Step → Prop
  | [] => True
  | step :: steps => before = false ∧ NoneAfterText step.yieldsText steps

theorem textAfter_false (steps : List Step) : textAfter false steps = lastYieldsText steps := by
  cases steps with
  | nil => rfl
  | cons step steps =>
    induction steps generalizing step with
    | nil => simp [textAfter, lastYieldsText]
    | cons next steps inductionHypothesis =>
      have later := inductionHypothesis next
      simp only [textAfter] at later ⊢
      rw [later]
      simp [lastYieldsText]

theorem noneAfterText_iff {before : Bool} {steps : List Step} :
    NoneAfterText before steps ↔
      (before = true → steps = []) ∧
        ∀ earlier step later, steps = earlier ++ step :: later →
          step.yieldsText = true → later = [] := by
  induction steps generalizing before with
  | nil => simp [NoneAfterText]
  | cons first rest inductionHypothesis =>
    rw [NoneAfterText, inductionHypothesis]
    constructor
    · rintro ⟨noText, followed, others⟩
      refine ⟨by simp [noText], ?_⟩
      intro earlier step later cut yields
      cases earlier with
      | nil =>
        cases cut
        exact followed yields
      | cons head earlier =>
        cases cut
        exact others earlier step later rfl yields
    · rintro ⟨noText, last⟩
      refine ⟨by simpa using noText, last [] first rest rfl, ?_⟩
      rintro earlier step later rfl
      exact last (first :: earlier) step later rfl

/-- If no step follows a text, a text among what they return is what is there after them. -/
theorem textAfter_of_yieldsText {before : Bool} {steps : List Step} {step : Step}
    (none : NoneAfterText before steps) (isStep : step ∈ steps) (yields : step.yieldsText = true) :
    textAfter before steps = true := by
  obtain ⟨earlier, later, rfl⟩ := List.append_of_mem isStep
  obtain rfl := (noneAfterText_iff.mp none).2 earlier step later rfl yields
  clear none isStep
  induction earlier generalizing before with
  | nil => exact yields
  | cons first rest inductionHypothesis => exact inductionHypothesis

/-- What is there after some steps is a text only if it was there before, or if one of them returns
it. -/
theorem exists_yieldsText_of_textAfter {before : Bool} {steps : List Step}
    (text : textAfter before steps = true) :
    before = true ∨ ∃ step ∈ steps, step.yieldsText = true := by
  induction steps generalizing before with
  | nil => exact .inl text
  | cons first rest inductionHypothesis =>
    refine .inr ?_
    rcases inductionHypothesis text with yields | ⟨step, isStep, yields⟩
    · exact ⟨first, List.mem_cons_self, yields⟩
    · exact ⟨step, List.mem_cons_of_mem first isStep, yields⟩

/-- What `TextLast` says of a step is what its run needs. -/
theorem textLast_iff {step : Step} :
    step.TextLast ↔
      NoneAfterText false step.children ∧
        (step.returns = none ∨ textAfter false step.children = false) := by
  rw [noneAfterText_iff]
  constructor
  · intro last
    refine ⟨⟨by simp, ?_⟩, ?_⟩
    · intro earlier child later cut yields
      exact (last earlier child later cut yields).1
    · cases text : textAfter false step.children with
      | false => exact .inr rfl
      | true =>
        rcases exists_yieldsText_of_textAfter text with impossible | ⟨child, isChild, yields⟩
        · cases impossible
        · obtain ⟨earlier, later, cut⟩ := List.append_of_mem isChild
          exact .inl (last earlier child later cut yields).2
  · rintro ⟨none, returned⟩ earlier child later cut yields
    refine ⟨none.2 earlier child later cut yields, ?_⟩
    rcases returned with returned | noText
    · exact returned
    · have isChild : child ∈ step.children := by simp [cut]
      rw [textAfter_of_yieldsText (noneAfterText_iff.mpr none) isChild yields] at noText
      cases noText

end PromptTree.Step
