import Mathlib
import PromptTree.Proofs.Document.Rereading
import PromptTree.Proofs.Document.Stopping

/-!
Children that return texts. A step may have children that return a text only where nothing takes up
their result, and it notes the others when all of them have been read. An element that is no map is
not among the children that are read, so the place that is noted is the one among those that were read
(`mem_own_iff`). Main statement: this is the place of the element as long as all elements before it
are maps, and not otherwise (`text_problems_of_step`).
-/

namespace PromptTree.Document

namespace Reading

variable {α γ : Type}

/-- The reading comes to `a`, and this is what was found wrong, in order. -/
def Finds (reading : Reading α) (a : α) (found : List Problem) : Prop :=
  @Eq (Except Obstacle (α × List Problem)) reading (.ok (a, found))

@[simp] theorem finds_of {a b : α} {found : List Problem} :
    (of a).Finds b found ↔ a = b ∧ found = [] := by
  simp [Finds, of, eq_comm]

@[simp] theorem finds_pure {a b : α} {found : List Problem} :
    Finds (pure a) b found ↔ a = b ∧ found = [] :=
  finds_of

@[simp] theorem finds_note {path : String} {mistake : Mistake} {a : Unit} {found : List Problem} :
    (note path mistake).Finds a found ↔ found = [⟨path, mistake⟩] := by
  simp [Finds, note, eq_comm]

theorem finds_bind {reading : Reading α} {next : α → Reading γ} {c : γ} {found : List Problem} :
    Finds (reading >>= next) c found ↔ ∃ a first more,
      reading.Finds a first ∧ (next a).Finds c more ∧ found = first ++ more := by
  change Finds (reading.andThen next) c found ↔ _
  rcases reading with obstacle | ⟨a, first⟩
  · simp [andThen, Finds]
  · constructor
    · intro finds
      rcases ended : next a with obstacle | ⟨b, more⟩
      · simp [andThen, Finds, ended] at finds
      · simp only [andThen, Finds, ended, Except.ok.injEq, Prod.mk.injEq] at finds
        obtain ⟨rfl, rfl⟩ := finds
        exact ⟨a, first, more, rfl, ended, rfl⟩
    · rintro ⟨_, _, more, ⟨⟩, ended, rfl⟩
      change next a = .ok (c, more) at ended
      simp [andThen, Finds, ended]

theorem Finds.comes {reading : Reading α} {a : α} {found : List Problem}
    (finds : reading.Finds a found) : reading.Comes a :=
  ⟨found, finds⟩

theorem Comes.unique {reading : Reading α} {a b : α} (comes : reading.Comes a)
    (comesToo : reading.Comes b) : a = b := by
  obtain ⟨found, comes⟩ := comes
  obtain ⟨foundToo, comesToo⟩ := comesToo
  cases comes.symm.trans comesToo
  rfl

/-! ### Elements and steps -/

/-- The place of an element in the list of the steps of a step. -/
def childPlace (place : String) (j : Nat) : String :=
  s!"{place}.steps[{j}]"

theorem childPlace_inj {place : String} {j k : Nat} :
    childPlace place j = childPlace place k ↔ j = k := by
  simp [childPlace, String.append_left_inj, String.append_right_inj, Nat.repr_inj]

def mapsBefore (items : List Value) (j : Nat) : Nat :=
  (items.take j).countP (·.asMap?.isSome)

def Followed (items : List Value) (j : Nat) : Prop :=
  ∃ v ∈ items.drop (j + 1), v.asMap?.isSome = true

def ReadAs (place : String) (items : List Value) (j : Nat) (child : Step) : Prop :=
  ∃ v, items[j]? = some v ∧ (step (childPlace place j) v).Comes (some child)

theorem isMap_of_comes_step {path : String} {v : Value} {child : Option Step}
    (comes : (step path v).Comes child) : child.isSome = v.asMap?.isSome := by
  cases v with
  | map entries =>
    simp only [step, comes_bind, comes_pure] at comes
    obtain ⟨_, _, _, _, _, _, _, _, _, _, _, _, _, _, _, _, _, _, _, _, rfl⟩ := comes
    rfl
  | _ =>
    simp only [step, comes_bind, comes_pure] at comes
    obtain ⟨_, _, rfl⟩ := comes
    rfl

@[simp] theorem mapsBefore_cons_succ (v : Value) (items : List Value) (j : Nat) :
    mapsBefore (v :: items) (j + 1) = mapsBefore items j + if v.asMap?.isSome then 1 else 0 := by
  rw [mapsBefore, List.take_succ_cons, List.countP_cons]
  rfl

/-- What is read at a place is read among as many steps as there are maps before it. -/
theorem getElem?_of_comes_steps {path : String} {i : Nat} {items : List Value}
    {children : List Step} (comes : (steps path i items).Comes children) (k : Nat) (child : Step) :
    children[k]? = some child ↔ ∃ j v, items[j]? = some v ∧
      (step (childPlace path (i + j)) v).Comes (some child) ∧ mapsBefore items j = k := by
  induction items generalizing i children k with
  | nil =>
    obtain rfl := comes_of.mp comes
    simp
  | cons v vs inductionHypothesis =>
    simp only [steps, comes_bind, comes_pure] at comes
    obtain ⟨first, isFirst, rest, areRest, rfl⟩ := comes
    have isMap := isMap_of_comes_step isFirst
    have later := inductionHypothesis areRest
    have shifted (j : Nat) : i + (j + 1) = i + 1 + j := by omega
    constructor
    · intro isChild
      cases first with
      | none =>
        obtain ⟨j, w, isElement, isRead, isPlace⟩ := (later k).mp isChild
        exact ⟨j + 1, w, isElement, shifted j ▸ isRead, by simp [← isMap, isPlace]⟩
      | some first =>
        cases k with
        | zero =>
          cases isChild
          exact ⟨0, v, rfl, isFirst, rfl⟩
        | succ k =>
          obtain ⟨j, w, isElement, isRead, isPlace⟩ := (later k).mp isChild
          exact ⟨j + 1, w, isElement, shifted j ▸ isRead, by simp [← isMap, isPlace]⟩
    · rintro ⟨_ | j, w, isElement, isRead, isPlace⟩
      · cases isElement
        obtain rfl := isFirst.unique isRead
        cases isPlace
        rfl
      · rw [shifted j] at isRead
        rw [mapsBefore_cons_succ, ← isMap] at isPlace
        cases first with
        | none => exact (later k).mpr ⟨j, w, isElement, isRead, by simpa using isPlace⟩
        | some first =>
          obtain rfl : mapsBefore vs j + 1 = k := by simpa using isPlace
          exact (later _).mpr ⟨j, w, isElement, isRead, rfl⟩

theorem length_of_comes_steps {path : String} {i : Nat} {items : List Value} {children : List Step}
    (comes : (steps path i items).Comes children) :
    children.length = items.countP (·.asMap?.isSome) := by
  induction items generalizing i children with
  | nil =>
    obtain rfl := comes_of.mp comes
    rfl
  | cons v vs inductionHypothesis =>
    simp only [steps, comes_bind, comes_pure] at comes
    obtain ⟨first, isFirst, rest, areRest, rfl⟩ := comes
    rw [List.length_append, inductionHypothesis areRest, List.countP_cons,
      ← isMap_of_comes_step isFirst, Nat.add_comm]
    cases first <;> rfl

/-! ### Texts as results -/

/-- What is wrong with a child that returns a text, at a place among its siblings. -/
def misplaced (place : String) (parentReturns isLast : Bool) (child : Step) : List Problem :=
  if child.yieldsText then
    if isLast then if parentReturns then [⟨place, .textUnderReturn child.label⟩] else []
    else [⟨place, .textBeforeStep child.label⟩]
  else []

theorem mem_misplaced_iff {place : String} {parentReturns isLast : Bool} {child : Step}
    {problem : Problem} :
    problem ∈ misplaced place parentReturns isLast child ↔ child.yieldsText = true ∧
      (isLast = false ∧ problem = ⟨place, .textBeforeStep child.label⟩ ∨
        isLast = true ∧ parentReturns = true ∧ problem = ⟨place, .textUnderReturn child.label⟩) := by
  cases isLast <;> cases parentReturns <;> by_cases isText : child.yieldsText = true <;>
    simp [misplaced, isText]

theorem finds_textResults_cons {path : String} {parentReturns : Bool} {i : Nat} {child : Step}
    {children : List Step} {found : List Problem} :
    (textResults path parentReturns i (child :: children)).Finds () found ↔
      ∃ later, (textResults path parentReturns (i + 1) children).Finds () later ∧
        found = misplaced (childPlace path i) parentReturns children.isEmpty child ++ later := by
  rw [textResults, misplaced, childPlace]
  generalize textResults path parentReturns (i + 1) children = rest
  cases children.isEmpty <;> cases parentReturns <;> by_cases isText : child.yieldsText = true <;>
    simp [isText, finds_bind]

/-- The problems of children that return a text are at the places of the children. -/
theorem mem_of_finds_textResults {path : String} {parentReturns : Bool} {i : Nat}
    {children : List Step} {found : List Problem}
    (finds : (textResults path parentReturns i children).Finds () found) (problem : Problem) :
    problem ∈ found ↔ ∃ k child, children[k]? = some child ∧
      problem ∈ misplaced (childPlace path (i + k)) parentReturns (k + 1 == children.length) child := by
  induction children generalizing i found with
  | nil =>
    obtain ⟨_, rfl⟩ := finds_of.mp finds
    simp
  | cons first children inductionHypothesis =>
    obtain ⟨later, areLater, rfl⟩ := finds_textResults_cons.mp finds
    have shifted (k : Nat) : i + (k + 1) = i + 1 + k := by omega
    have isLast : (0 + 1 == (first :: children).length) = children.isEmpty := by
      cases children <;> simp
    have isLastToo (k : Nat) :
        (k + 1 + 1 == (first :: children).length) = (k + 1 == children.length) := by
      simp
    rw [List.mem_append, inductionHypothesis areLater]
    constructor
    · rintro (isFirst | ⟨k, child, isChild, isProblem⟩)
      · exact ⟨0, first, rfl, isLast ▸ isFirst⟩
      · exact ⟨k + 1, child, isChild, by rwa [shifted, isLastToo]⟩
    · rintro ⟨_ | k, child, isChild, isProblem⟩
      · cases isChild
        exact .inl (isLast ▸ isProblem)
      · exact .inr ⟨k, child, isChild, by rwa [shifted, isLastToo] at isProblem⟩

/-! ### Steps -/

def placeOf (path name : String) : String :=
  if name.isEmpty then path else s!"{path}[{name}]"

/-- The last part of a step that is read are the problems of its children that return texts. -/
theorem finds_step {path : String} {entries : Entries} {items : List Value} {built : Step}
    {problems : List Problem} (areSteps : Entries.get? entries "steps" = some (.list items))
    (finds : (step path (.map entries)).Finds (some built) problems) :
    ∃ earlier own, problems = earlier ++ own ∧
      (steps (placeOf path built.name) 0 items).Comes built.children ∧
      (textResults (placeOf path built.name) built.returns.isSome 0 built.children).Finds () own := by
  simp only [step, finds_bind, finds_pure, childrenOf_eq, areSteps] at finds
  obtain ⟨_, fields, _, _, ⟨name, names, _, _, ⟨prompt, prompts, _, _, ⟨_, vars, _, _,
    ⟨_, declared, _, _, ⟨_, tests, _, _, ⟨_, tested, _, _, ⟨returns, returned, _, _,
    ⟨children, read, _, areRead, ⟨_, own, _, areOwn, ⟨isBuilt, rfl⟩, rfl⟩, rfl⟩, rfl⟩, rfl⟩, rfl⟩, rfl⟩,
    rfl⟩, rfl⟩, rfl⟩, rfl⟩ := finds
  cases isBuilt
  refine ⟨fields ++ names ++ prompts ++ vars ++ declared ++ tests ++ tested ++ returned ++ read, own, ?_,
    areRead.comes, areOwn⟩
  simp only [List.append_assoc, List.append_nil]

/-- As many maps are before an element as there are elements if all of them are maps, and fewer
otherwise. -/
theorem mapsBefore_eq_iff {items : List Value} {j : Nat} (isIndex : j ≤ items.length) :
    mapsBefore items j = j ↔ ∀ v ∈ items.take j, v.asMap?.isSome = true := by
  have length : (items.take j).length = j := List.length_take_of_le isIndex
  rw [mapsBefore, ← List.countP_eq_length, length]

/-- Each problem is at the place of an element that is read as a step that returns a text, and each
such element but the last one has a problem at its place. -/
structure PointsAt (place : String) (items : List Value) (own : List Problem) : Prop where
  sound : ∀ problem ∈ own, ∃ j child, ReadAs place items j child ∧ child.yieldsText = true ∧
    problem.path = childPlace place j
  complete : ∀ j child, ReadAs place items j child → child.yieldsText = true → j + 1 < items.length →
    ∃ problem ∈ own, problem.path = childPlace place j

/-- An element that is a map is the last map if there are as many maps as with it. -/
theorem mapsBefore_add_one_eq_iff {items : List Value} {j : Nat} {v : Value}
    (isElement : items[j]? = some v) (isMap : v.asMap?.isSome = true) :
    mapsBefore items j + 1 = items.countP (·.asMap?.isSome) ↔
      ¬ Followed items j := by
  obtain ⟨inBounds, rfl⟩ := List.getElem?_eq_some_iff.mp isElement
  have split : items = items.take j ++ items[j] :: items.drop (j + 1) := by
    rw [← List.drop_eq_getElem_cons inBounds, List.take_append_drop]
  have whole : items.countP (·.asMap?.isSome) =
      mapsBefore items j + (items.drop (j + 1)).countP (·.asMap?.isSome) + 1 := by
    conv_lhs => rw [split]
    rw [List.countP_append, List.countP_cons, if_pos isMap, mapsBefore, Nat.add_assoc]
  rw [whole, Followed, ← List.countP_pos_iff]
  omega

/-- The problems of a step with its children that return texts, at the places that they have among
the children that were read. -/
theorem mem_own_iff {place : String} {parentReturns : Bool} {items : List Value}
    {children : List Step} {own : List Problem}
    (read : (steps place 0 items).Comes children)
    (finds : (textResults place parentReturns 0 children).Finds () own) (problem : Problem) :
    problem ∈ own ↔ ∃ j child, ReadAs place items j child ∧ child.yieldsText = true ∧
      (Followed items j ∧
          problem = ⟨childPlace place (mapsBefore items j), .textBeforeStep child.label⟩ ∨
        ¬ Followed items j ∧ parentReturns = true ∧
          problem = ⟨childPlace place (mapsBefore items j), .textUnderReturn child.label⟩) := by
  rw [mem_of_finds_textResults finds]
  simp only [getElem?_of_comes_steps read, Nat.zero_add, mem_misplaced_iff,
    length_of_comes_steps read]
  constructor
  · rintro ⟨_, child, ⟨j, v, isElement, isRead, rfl⟩, isText, isProblem⟩
    have last := mapsBefore_add_one_eq_iff isElement (isMap_of_comes_step isRead).symm
    refine ⟨j, child, ⟨v, isElement, isRead⟩, isText, ?_⟩
    simpa [last] using isProblem
  · rintro ⟨j, child, ⟨v, isElement, isRead⟩, isText, isProblem⟩
    have last := mapsBefore_add_one_eq_iff isElement (isMap_of_comes_step isRead).symm
    refine ⟨_, child, ⟨j, v, isElement, isRead, rfl⟩, isText, ?_⟩
    simpa [last] using isProblem

theorem pointsAt_of_all_maps {place : String} {parentReturns : Bool} {items : List Value}
    {children : List Step} {own : List Problem}
    (read : (steps place 0 items).Comes children)
    (finds : (textResults place parentReturns 0 children).Finds () own)
    (allMaps : ∀ v ∈ items, v.asMap?.isSome = true) : PointsAt place items own := by
  have ownPlace {j : Nat} {child : Step} (isRead : ReadAs place items j child) :
      mapsBefore items j = j := by
    obtain ⟨v, isElement, _⟩ := isRead
    have isIndex := (List.getElem?_eq_some_iff.mp isElement).1
    apply (mapsBefore_eq_iff (Nat.le_of_lt isIndex)).mpr
    exact fun w isBefore => allMaps w (List.mem_of_mem_take isBefore)
  constructor
  · intro problem isProblem
    obtain ⟨j, child, isRead, isText, rest⟩ := (mem_own_iff read finds problem).mp isProblem
    rw [ownPlace isRead] at rest
    refine ⟨j, child, isRead, isText, ?_⟩
    rcases rest with ⟨_, rfl⟩ | ⟨_, _, rfl⟩ <;> rfl
  · intro j child isRead isText notLast
    have later : Followed items j := by
      have isElement : items[j + 1] ∈ items.drop (j + 1) := by
        rw [List.drop_eq_getElem_cons notLast]
        exact List.mem_cons_self
      exact ⟨_, isElement, allMaps _ (List.getElem_mem notLast)⟩
    refine ⟨_, (mem_own_iff read finds _).mpr ⟨j, child, isRead, isText, .inl ⟨later, rfl⟩⟩, ?_⟩
    rw [ownPlace isRead]

end Reading

open Reading

/-- The problems of a step with its children that return texts name a place among the maps in the list
of its steps. This is the place in the list itself as long as every element before it is a map; so
the problems point at the steps that they are about if all elements are maps. -/
theorem text_problems_of_step {path : String} {entries : Entries} {items : List Value} {built : Step}
    {problems : List Problem} (areSteps : Entries.get? entries "steps" = some (.list items))
    (finds : (step path (.map entries)).Finds (some built) problems) :
    let place := placeOf path built.name
    ∃ earlier own, problems = earlier ++ own ∧
      (textResults place built.returns.isSome 0 built.children).Finds () own ∧
      (∀ problem, problem ∈ own ↔ ∃ j child, ReadAs place items j child ∧ child.yieldsText = true ∧
        (Followed items j ∧
            problem = ⟨childPlace place (mapsBefore items j), .textBeforeStep child.label⟩ ∨
          ¬ Followed items j ∧ built.returns.isSome = true ∧
            problem = ⟨childPlace place (mapsBefore items j), .textUnderReturn child.label⟩)) ∧
      (∀ j ≤ items.length, childPlace place (mapsBefore items j) = childPlace place j ↔
        ∀ v ∈ items.take j, v.asMap?.isSome = true) ∧
      ((∀ v ∈ items, v.asMap?.isSome = true) → PointsAt place items own) := by
  obtain ⟨earlier, own, whole, read, finds⟩ := finds_step areSteps finds
  refine ⟨earlier, own, whole, finds, mem_own_iff read finds, ?_, pointsAt_of_all_maps read finds⟩
  intro j isIndex
  rw [childPlace_inj, mapsBefore_eq_iff isIndex]

/-- Two steps behind an element that is none, the first of which returns a text. -/
def strayElements : List Value :=
  [.int 7, .map (Entries.ofFields [("return", .text "a")]), .map []]

def strayStep : Entries :=
  Entries.ofFields [("name", .text "top"), ("steps", .list strayElements)]

def strayRead : Step :=
  ⟨"top", none, [], [], none,
    [⟨"", none, [], [], some (.leaf (some "a")), []⟩, ⟨"", none, [], [], none, []⟩]⟩

def strayProblems : List Problem :=
  [⟨"root[top].steps[0]", .partNotMap .step⟩,
    ⟨"root[top].steps[0]", .textBeforeStep "<unnamed>"⟩]

theorem finds_strayStep : (step "root" (.map strayStep)).Finds (some strayRead) strayProblems := by
  change step "root" (.map strayStep) = .ok (some strayRead, strayProblems)
  cbv

theorem text_problems_of_step_stray :
    Entries.get? strayStep "steps" = some (.list strayElements) ∧
      (step "root" (.map strayStep)).Finds (some strayRead) strayProblems ∧
      ∃ earlier own, strayProblems = earlier ++ own ∧
        ⟨childPlace "root[top]" 0, .textBeforeStep "<unnamed>"⟩ ∈ own ∧
        childPlace "root[top]" (mapsBefore strayElements 1) ≠ childPlace "root[top]" 1 := by
  have areSteps : Entries.get? strayStep "steps" = some (.list strayElements) := rfl
  obtain ⟨earlier, own, whole, _, places, ownPlaces, _⟩ :=
    text_problems_of_step areSteps finds_strayStep
  have isRead : ReadAs "root[top]" strayElements 1
      ⟨"", none, [], [], some (.leaf (some "a")), []⟩ := by
    refine ⟨_, rfl, [], ?_⟩
    cbv
  have followed : Followed strayElements 1 := ⟨.map [], List.mem_cons_self, rfl⟩
  refine ⟨areSteps, finds_strayStep, earlier, own, whole, ?_, ?_⟩
  · exact (places _).mpr ⟨1, _, isRead, rfl, .inl ⟨followed, rfl⟩⟩
  · intro same
    exact absurd ((ownPlaces 1 (by decide)).mp same) (by decide)

/-- The problems do not always point at the steps that they are about. -/
theorem not_always_pointsAt :
    ∃ own, (textResults "root[top]" strayRead.returns.isSome 0 strayRead.children).Finds () own ∧
      (step "root" (.map strayStep)).Finds (some strayRead)
        ([⟨"root[top].steps[0]", .partNotMap .step⟩] ++ own) ∧
      ¬ PointsAt "root[top]" strayElements own := by
  refine ⟨[⟨"root[top].steps[0]", .textBeforeStep "<unnamed>"⟩], ?_, finds_strayStep, ?_⟩
  · change textResults _ _ _ _ = .ok _
    cbv
  · intro pointsAt
    obtain ⟨j, child, ⟨v, isElement, isRead⟩, _, isPlace⟩ := pointsAt.sound _ List.mem_cons_self
    change childPlace "root[top]" 0 = childPlace "root[top]" j at isPlace
    obtain rfl := childPlace_inj.mp isPlace
    cases isElement
    cases isMap_of_comes_step isRead

end PromptTree.Document
