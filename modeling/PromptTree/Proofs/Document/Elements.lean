import PromptTree.Document.Vocabulary
import PromptTree.Proofs.Document.Rereading

/-!
Steps written down as XML elements. What the vocabulary makes of such an element is the step's data
in the form that has texts only (`gives_stepData`), so that the reader of data does the rest. Main
statement: the data and the element of a step that can be written are both accepted, and both have
the step as their tree (`data_and_element_load`); the element exactly if the limits of downloads do
not have more digits than are read (`not_every_element_loads`).
-/

namespace PromptTree.Document.Vocabulary

open Xml Reading

/-- An element with attributes that belong to no namespace. -/
def tag (space : Option String) (name : String) (attributes : List (String × String))
    (content : List Node) : Node :=
  .element ⟨space, name⟩ (attributes.map fun (key, value) => (⟨none, key⟩, value)) content

def attributes (key : String) (value : Option String) : List (String × String) :=
  value.toList.map fun value => (key, value)

def textOnly (text : String) : List Node :=
  if text = "" then [] else [.text text]

section Writing

variable (space : Option String)

def variableElement : Declaration → Node
  | .fixed name template =>
    tag space "var" [("name", name), ("source", "local"), ("value", template)] []
  | .generated g =>
    tag space "var"
      ([("name", g.name), ("source", "ai")] ++ attributes "pattern" g.pattern ++
        [("required", if g.required then "yes" else "no")])
      (g.options.map fun option => tag space "option" [] (textOnly option))
  | .download d =>
    tag space "var"
      ([("name", d.name), ("source", "download"), ("postprocess", d.conversion.name)] ++
        attributes "limit" (d.limit.map toString) ++ [("value", d.source)]) []

def testElement (v : Validator) : Node :=
  tag space "test" (attributes "pattern" v.pattern ++ [("expect", v.expect)]) (textOnly v.text)

mutual

/-- The element of a projection, by the name of the element and the name of the item if it is one. -/
def returnElement (element : String) (name : Option String) : Projection → Node
  | .leaf template => tag space element (attributes "name" name ++ attributes "value" template) []
  | .record items => tag space element (attributes "name" name) (itemElements items)
termination_by structural projection => projection

def itemElements : List (Option String × Projection) → List Node
  | [] => []
  | (name, projection) :: items => returnElement "item" name projection :: itemElements items
termination_by structural items => items

end

mutual

def stepElement : Step → Node
  | ⟨name, prompt, declarations, validators, returns, children⟩ =>
    tag space "ai" ([("name", name)] ++ attributes "prompt" prompt)
      (declarations.map (variableElement space) ++ validators.map (testElement space) ++
        returns.toList.map (returnElement space "return" none) ++ stepElements children)
termination_by structural step => step

def stepElements : List Step → List Node
  | [] => []
  | child :: children => stepElement child :: stepElements children
termination_by structural children => children

end

theorem stepElements_eq_map (children : List Step) :
    stepElements space children = children.map (stepElement space) := by
  induction children with
  | nil => rfl
  | cons child children inductionHypothesis =>
    rw [List.map_cons, ← inductionHypothesis]
    rfl

end Writing

/-! ### Parts of elements -/

section

variable {space : Option String} {name key : String} {given : List (String × String)}
  {content nodes : List Node}

@[simp] theorem nameOf?_tag : nameOf? (tag space name given content) = some name := rfl

@[simp] theorem content_tag : (tag space name given content).content = content := rfl

@[simp] theorem attribute?_tag :
    (tag space name given content).attribute? key = given.lookup key := by
  unfold tag Node.attribute?
  dsimp only
  induction given with
  | nil => rfl
  | cons first given inductionHypothesis =>
    rw [List.map_cons, List.lookup_cons, List.lookup_cons, inductionHypothesis]
    by_cases same : key = first.1
    · simp [same]
    · have different : ((⟨none, key⟩ : Xml.Name) == ⟨none, first.1⟩) = false := by
        simpa using same
      have other : (key == first.1) = false := by simpa using same
      rw [different, other]

@[simp] theorem lookup_attributes {value : Option String} :
    (attributes name value).lookup key = if key = name then value else none := by
  cases value with
  | none => simp [attributes]
  | some text =>
    by_cases same : key = name
    · simp [attributes, same]
    · have other : (key == name) = false := by simpa using same
      simp [attributes, List.lookup_cons, same, other]

theorem textOf_textOnly (text : String) : Node.textOf (textOnly text) = text := by
  unfold textOnly
  by_cases empty : text = ""
  · simp [empty, Node.textOf]
  · simp [empty, Node.textOf, Node.allText]

def AllTagged (space : Option String) (nodes : List Node) : Prop :=
  ∀ node ∈ nodes, ∃ name given content, node = tag space name given content

/-- The elements of a workflow belong to no namespace or to their own. -/
def Own (space : Option String) : Prop :=
  space = none ∨ space = some Vocabulary.space

theorem gives_noteForeign (own : Own space) :
    (noteForeign (tag space name given content)).Gives () := by
  rcases own with rfl | rfl
  · exact gives_of.mpr rfl
  · exact gives_of.mpr rfl

theorem gives_noteAllForeign (own : Own space) (tagged : AllTagged space nodes) :
    (noteAllForeign nodes).Gives () := by
  induction nodes with
  | nil => exact gives_of.mpr rfl
  | cons node nodes inductionHypothesis =>
    obtain ⟨⟨name, given, content, rfl⟩, others⟩ := List.forall_mem_cons.mp tagged
    simp only [noteAllForeign, gives_bind]
    exact ⟨(), gives_noteForeign own, inductionHypothesis others⟩

theorem gives_search (own : Own space) (tagged : AllTagged space nodes) :
    (search name nodes).Gives (named name nodes) := by
  simp only [search, gives_bind]
  exact ⟨(), gives_noteAllForeign own tagged, gives_pure.mpr rfl⟩

theorem named_append (more : List Node) :
    named name (nodes ++ more) = named name nodes ++ named name more :=
  List.filter_append nodes more

/-- Among elements of one name either all or none are of a name. -/
theorem named_of_all {other : String} (all : ∀ node ∈ nodes, nameOf? node = some other) :
    named name nodes = if other = name then nodes else [] := by
  unfold named
  split
  · next same =>
    rw [List.filter_eq_self]
    intro node isNode
    simp [all node isNode, same]
  · next different =>
    rw [List.filter_eq_nil_iff]
    intro node isNode
    simp [all node isNode, different]

end

/-! ### Variables and tests -/

section

variable {space : Option String}

theorem allTagged_options (options : List String) :
    AllTagged space (options.map fun option => tag space "option" [] (textOnly option)) := by
  intro node isNode
  obtain ⟨option, _, rfl⟩ := List.mem_map.mp isNode
  exact ⟨_, _, _, rfl⟩

theorem valueOf?_option (option : String) :
    (valueOf? (tag space "option" [] (textOnly option))).getD "" = option := by
  unfold valueOf?
  rw [attribute?_tag, List.lookup_nil, content_tag]
  by_cases empty : option = ""
  · rw [empty]
    rfl
  · have notEmpty : (textOnly option).isEmpty = false := by simp [textOnly, empty]
    rw [notEmpty]
    exact textOf_textOnly option

theorem field_written (key : String) (value : Option String) :
    textual.field key value.isSome (written value) =
      value.toList.map fun text => (Value.text key, .text text) := by
  cases value <;> rfl

theorem field_limit (limit : Option Int) :
    textual.field "limit" limit.isSome (limit.elim .null textual.number) =
      (limit.map toString).toList.map fun text => (Value.text "limit", .text text) := by
  cases limit <;> rfl

theorem field_list (key : String) (used : Bool) (items : List Value)
    (empty : used = true ↔ items ≠ []) :
    textual.field key used (.list items) = listField key items := by
  unfold Form.field listField
  cases items with
  | nil => simp_all [textual]
  | cons item items => simp_all

/-- The options are written one by one, and without options there is no value either. -/
theorem optionsData_eq (given : List (String × String)) (noValue : given.lookup "value" = none)
    (options : List String) :
    (if options.isEmpty then
        (valueOf? (tag space "var" given
          (options.map fun option => tag space "option" [] (textOnly option)))).toList.map
            fun value => (Value.text "value", Value.text value)
      else
        listField "options" (options.map fun option =>
          .text ((valueOf? (tag space "option" [] (textOnly option))).getD ""))) =
      textual.field "options" (!options.isEmpty) (.list (options.map .text)) := by
  rw [field_list _ _ _ (by simp)]
  simp only [valueOf?_option]
  cases options with
  | nil => simp [valueOf?, noValue, listField]
  | cons option options => rfl

theorem gives_variableData (own : Own space) (declaration : Declaration) :
    (variableData (variableElement space declaration)).Gives
      (.map (textual.variableData declaration)) := by
  simp only [variableData, gives_bind]
  cases declaration with
  | fixed name template =>
    refine ⟨[], gives_search own (by simp [AllTagged, variableElement]), gives_pure.mpr ?_⟩
    simp [variableElement, attributeField, valueOf?, List.lookup_cons, Form.variableData]
  | generated g =>
    have isOption : ∀ node ∈ g.options.map fun option => tag space "option" [] (textOnly option),
        nameOf? node = some "option" := by simp
    refine ⟨_, gives_search own (allTagged_options g.options), gives_pure.mpr ?_⟩
    simp only [variableElement, content_tag, named_of_all isOption, if_true, List.isEmpty_map,
      List.map_map, Function.comp_def]
    rw [optionsData_eq]
    · simp [attributeField, List.lookup_cons, List.lookup_append, Form.variableData,
        field_written]
      rfl
    · simp [List.lookup_cons, List.lookup_append]
  | download d =>
    refine ⟨[], gives_search own (by simp [AllTagged, variableElement]), gives_pure.mpr ?_⟩
    simp [variableElement, attributeField, valueOf?, List.lookup_cons, List.lookup_append,
      Form.variableData, field_limit]

theorem testData_testElement (v : Validator) :
    testData (testElement space v) = .map (textual.testData v) := by
  have isText : (testElement space v).allText = v.text := textOf_textOnly v.text
  unfold testData
  rw [isText]
  simp [testElement, attributeField, List.lookup_cons, List.lookup_append, Form.testData,
    field_written]

/-! ### Projections -/

theorem nameOf?_returnElement (element : String) (name : Option String) (projection : Projection) :
    nameOf? (returnElement space element name projection) = some element := by
  cases projection <;> rfl

theorem usedAttributeField_returnElement (element : String) {name : Option String}
    (notEmpty : name ≠ some "") (projection : Projection) :
    usedAttributeField (returnElement space element name projection) "name" =
      textual.field "name" name.isSome (written name) := by
  have isName : (returnElement space element name projection).attribute? "name" = name := by
    cases projection <;> simp [returnElement, List.lookup_append]
  unfold usedAttributeField
  rw [isName, field_written]
  cases name with
  | none => rfl
  | some s =>
    have used : s ≠ "" := by simpa using notEmpty
    simp [used]

theorem itemElements_eq_map (space : Option String) (items : List (Option String × Projection)) :
    itemElements space items =
      items.map fun (name, projection) => returnElement space "item" name projection := by
  induction items with
  | nil => rfl
  | cons item items inductionHypothesis =>
    rw [List.map_cons, ← inductionHypothesis]
    rfl

theorem allTagged_itemElements (items : List (Option String × Projection)) :
    AllTagged space (itemElements space items) := by
  intro node isNode
  rw [itemElements_eq_map] at isNode
  obtain ⟨⟨name, projection⟩, _, rfl⟩ := List.mem_map.mp isNode
  cases projection <;> exact ⟨_, _, _, rfl⟩

theorem named_itemElements (items : List (Option String × Projection)) :
    named "item" (itemElements space items) = itemElements space items := by
  have isItem : ∀ node ∈ itemElements space items, nameOf? node = some "item" := by
    intro node isNode
    rw [itemElements_eq_map] at isNode
    obtain ⟨⟨name, projection⟩, _, rfl⟩ := List.mem_map.mp isNode
    exact nameOf?_returnElement "item" name projection
  rw [named_of_all isItem, if_pos rfl]

/-- What an element without items returns is its value. -/
theorem gives_returnData_of_value {element : String} {given : List (String × String)}
    {value : String} (isValue : given.lookup "value" = some value) :
    (returnData (tag space element given [])).Gives [(.text "value", .text value)] := by
  have stands : valueOf? (tag space element given []) = some value := by
    unfold valueOf?
    rw [attribute?_tag, isValue]
  have none : (named "item" ([] : List Node)).isEmpty = true := rfl
  unfold tag at stands ⊢
  unfold returnData
  rw [gives_bind]
  refine ⟨(), gives_of.mpr rfl, ?_⟩
  rw [if_pos none, stands]
  exact gives_pure.mpr rfl

theorem gives_returnData_of_items (own : Own space) {element : String}
    {given : List (String × String)} {content : List Node} {items : List Value}
    (tagged : AllTagged space content) (notEmpty : named "item" content ≠ [])
    (isItems : (itemsData content).Gives items) :
    (returnData (tag space element given content)).Gives [(.text "items", .list items)] := by
  unfold tag returnData
  rw [gives_bind]
  refine ⟨(), gives_noteAllForeign own tagged, ?_⟩
  rw [if_neg (by simpa using notEmpty), gives_bind]
  exact ⟨items, isItems, gives_pure.mpr rfl⟩

mutual

theorem gives_returnData (own : Own space) : (shape : Projection) → Writable shape →
    (element : String) → (name : Option String) →
      (returnData (returnElement space element name shape)).Gives (textual.returnData shape)
  | .leaf none, writable, _, _ => absurd rfl (writable _ List.mem_cons_self).2.1
  | .leaf (some template), _, element, name =>
    gives_returnData_of_value (by simp [List.lookup_append])
  | .record items, writable, element, name => by
    obtain ⟨⟨⟨named, _⟩, _, notEmpty⟩, writable⟩ := List.forall_mem_cons.mp writable
    apply gives_returnData_of_items own (allTagged_itemElements items) _
      (gives_itemsData own items named writable)
    rw [named_itemElements, itemElements_eq_map]
    simpa using notEmpty
termination_by structural shape => shape

theorem gives_itemsData (own : Own space) : (items : List (Option String × Projection)) →
    (∀ item ∈ items, item.1 ≠ some "") →
    (∀ part ∈ Projection.partsOf items,
      part.WellFormed ∧ part ≠ .leaf none ∧ part ≠ .record []) →
    (itemsData (itemElements space items)).Gives (textual.itemsData items)
  | [], _, _ => gives_of.mpr rfl
  | (name, shape) :: items, named, writable => by
    rw [List.forall_mem_cons] at named
    rw [Projection.partsOf, List.forall_mem_append] at writable
    unfold itemElements itemsData
    rw [if_pos (nameOf?_returnElement "item" name shape), gives_bind]
    refine ⟨_, gives_returnData own shape writable.1 "item" name, ?_⟩
    rw [gives_bind]
    refine ⟨_, gives_itemsData own items named.2 writable.2, gives_pure.mpr ?_⟩
    rw [usedAttributeField_returnElement "item" named.1]
    rfl
termination_by structural items => items

end

/-! ### Steps -/

theorem gives_variablesData (own : Own space) (declarations : List Declaration) :
    (variablesData (declarations.map (variableElement space))).Gives
      (declarations.map fun declaration => .map (textual.variableData declaration)) := by
  induction declarations with
  | nil => exact gives_of.mpr rfl
  | cons declaration declarations inductionHypothesis =>
    simp only [List.map_cons, variablesData, gives_bind]
    exact ⟨_, gives_variableData own declaration, _, inductionHypothesis, gives_pure.mpr rfl⟩

theorem gives_firstReturn (own : Own space) {returns : Option Projection}
    (writable : ∀ projection, returns = some projection → Writable projection) :
    (firstReturn (returns.toList.map (returnElement space "return" none))).Gives
      (returns.toList.map fun projection =>
        (.text "return", .map (textual.returnData projection))) := by
  cases returns with
  | none => exact gives_of.mpr rfl
  | some shape =>
    simp only [Option.toList_some, List.map_cons, List.map_nil, firstReturn, gives_bind]
    exact ⟨_, gives_returnData own shape (writable shape rfl) "return" none, gives_pure.mpr rfl⟩

theorem stepsData_append_of_other {nodes more : List Node}
    (others : ∀ node ∈ nodes, nameOf? node ≠ some "ai") :
    stepsData (nodes ++ more) = stepsData more := by
  induction nodes with
  | nil => rfl
  | cons node nodes inductionHypothesis =>
    rw [List.forall_mem_cons] at others
    rw [List.cons_append, stepsData, if_neg others.1]
    exact inductionHypothesis others.2

theorem nameOf?_stepElement (step : Step) : nameOf? (stepElement space step) = some "ai" := by
  cases step
  rfl

theorem gives_stepsData {children : List Step}
    (each : ∀ child ∈ children,
      (stepData (stepElement space child)).Gives (textual.stepData child)) :
    (stepsData (stepElements space children)).Gives (textual.stepsData children) := by
  induction children with
  | nil => exact gives_of.mpr rfl
  | cons child children inductionHypothesis =>
    rw [List.forall_mem_cons] at each
    unfold stepElements stepsData
    rw [if_pos (nameOf?_stepElement child)]
    simp only [gives_bind]
    exact ⟨_, each.1, _, inductionHypothesis each.2, gives_pure.mpr rfl⟩

def contentOf (space : Option String) (step : Step) : List Node :=
  step.declarations.map (variableElement space) ++ step.validators.map (testElement space) ++
    step.returns.toList.map (returnElement space "return" none) ++ stepElements space step.children

theorem stepElement_eq (step : Step) :
    stepElement space step =
      tag space "ai" ([("name", step.name)] ++ attributes "prompt" step.prompt)
        (contentOf space step) := by
  cases step
  rfl

theorem nameOf?_variableElement (declaration : Declaration) :
    nameOf? (variableElement space declaration) = some "var" := by
  cases declaration <;> rfl

theorem allTagged_contentOf (step : Step) : AllTagged space (contentOf space step) := by
  intro node isNode
  unfold contentOf at isNode
  rw [stepElements_eq_map] at isNode
  simp only [List.mem_append, List.mem_map] at isNode
  rcases isNode with ((⟨declaration, _, rfl⟩ | ⟨v, _, rfl⟩) | ⟨shape, _, rfl⟩) | ⟨child, _, rfl⟩
  · cases declaration <;> exact ⟨_, _, _, rfl⟩
  · exact ⟨_, _, _, rfl⟩
  · cases shape <;> exact ⟨_, _, _, rfl⟩
  · exact ⟨_, _, _, stepElement_eq child⟩

/-- The content of a step's element, element by element. -/
theorem named_contentOf (step : Step) (name : String) :
    named name (contentOf space step) =
      (if "var" = name then step.declarations.map (variableElement space) else []) ++
        (if "test" = name then step.validators.map (testElement space) else []) ++
        (if "return" = name then step.returns.toList.map (returnElement space "return" none)
          else []) ++
        (if "ai" = name then stepElements space step.children else []) := by
  unfold contentOf
  rw [named_append, named_append, named_append, stepElements_eq_map]
  congr
  · apply named_of_all
    simp [nameOf?_variableElement]
  · apply named_of_all
    simp [testElement]
  · apply named_of_all
    simp [nameOf?_returnElement]
  · apply named_of_all
    simp [nameOf?_stepElement]

theorem stepsData_contentOf (step : Step) :
    stepsData (contentOf space step) = stepsData (stepElements space step.children) := by
  apply stepsData_append_of_other
  intro node isNode
  simp only [List.mem_append, List.mem_map] at isNode
  rcases isNode with (⟨declaration, _, rfl⟩ | ⟨v, _, rfl⟩) | ⟨shape, _, rfl⟩
  · simp [nameOf?_variableElement]
  · simp [testElement]
  · simp [nameOf?_returnElement]

theorem gives_search_contentOf (own : Own space) (step : Step) {name : String} {found : List Node}
    (isFound : named name (contentOf space step) = found) :
    (search name (contentOf space step)).Gives found :=
  isFound ▸ gives_search own (allTagged_contentOf step)

theorem usedName_stepElement (space : Option String) (step : Step) :
    usedAttributeField (stepElement space step) "name" =
      textual.field "name" (step.name != "") (.text step.name) := by
  unfold usedAttributeField
  rw [stepElement_eq, attribute?_tag]
  by_cases empty : step.name = ""
  · simp [empty, Form.field, textual]
  · simp [empty, Form.field]

theorem promptData_stepElement (space : Option String) {step : Step} (notEmpty : step.prompt ≠ some "") :
    promptData (stepElement space step) [] =
      textual.field "prompt" step.prompt.isSome (written step.prompt) := by
  unfold promptData usedAttributeField
  rw [stepElement_eq, attribute?_tag, field_written]
  cases isPrompt : step.prompt with
  | none => simp [attributes, List.lookup_cons]
  | some prompt =>
    have used : prompt ≠ "" := by
      rintro rfl
      exact notEmpty isPrompt
    simp [attributes, List.lookup_cons, used]

theorem gives_stepData (own : Own space) (step : Step)
    (canonical : ∀ node ∈ step.nodes, Canonical node) :
    (stepData (stepElement space step)).Gives (textual.stepData step) := by
  induction step using Step.byChildren with
  | hereditary step inductionHypothesis =>
    obtain ⟨canonical, below⟩ := Step.forall_nodes_iff.mp canonical
    have children : (stepsData (contentOf space step)).Gives
        (textual.stepsData step.children) := by
      rw [stepsData_contentOf]
      apply gives_stepsData
      intro child isChild
      exact inductionHypothesis child isChild (below child isChild)
    have writable : ∀ projection, step.returns = some projection → Writable projection := by
      intro projection isReturned part isPart
      exact ⟨canonical.sound.returns projection isReturned part isPart,
        canonical.returns projection isReturned part isPart⟩
    have tests : (step.validators.map (testElement space)).map testData =
        step.validators.map fun v => .map (textual.testData v) := by
      simp [testData_testElement]
    have name := usedName_stepElement space step
    have prompt := promptData_stepElement space canonical.prompt
    rw [stepElement_eq] at name prompt ⊢
    unfold tag at name prompt ⊢
    simp only [stepData, gives_bind]
    refine ⟨[], gives_search_contentOf own step (by simp [named_contentOf]),
      step.declarations.map (variableElement space),
      gives_search_contentOf own step (by simp [named_contentOf]),
      _, gives_variablesData own step.declarations,
      step.validators.map (testElement space),
      gives_search_contentOf own step (by simp [named_contentOf]),
      step.returns.toList.map (returnElement space "return" none),
      gives_search_contentOf own step (by simp [named_contentOf]),
      _, gives_firstReturn own writable, (), gives_noteAllForeign own (allTagged_contentOf step),
      _, children, gives_pure.mpr ?_⟩
    rw [name, prompt, tests, Form.stepData_eq, field_list, field_list, field_list]
    · rw [Form.stepsData_eq_map]
      simp
    · simp
    · simp

/-! ### Workflows -/

/-- The limits of the step's downloads have no more digits than are read. -/
def LimitsReadable (step : Step) : Prop :=
  ∀ d, .download d ∈ step.declarations → ∀ n, d.limit = some n →
    n.toNat < 10 ^ Text.maxNumberDigits

theorem writes_textual {step : Step} (canonical : Canonical step) (readable : LimitsReadable step) :
    textual.Writes step := by
  refine ⟨canonical, ?_⟩
  rintro _ isDeclared d rfl n isLimit
  cases canonical.sound.declarations _ isDeclared with
  | download _ _ positive => exact counts_textual (positive n isLimit) (readable d isDeclared n isLimit)

def elementData (step : Step) : Entries :=
  [(.text "version", .text "1"), (.text "root", .map (textual.stepData step)),
    (.text "name", .text step.name)]

theorem gives_documentOf_iff (own : Own space) {step : Step}
    (canonical : ∀ node ∈ step.nodes, Canonical node) {found : Option Document} :
    (documentOf (stepElement space step)).Gives found ↔
      (document (elementData step)).Gives found := by
  have isVersion : ((stepElement space step).attribute? "version").getD "1" = "1" := by
    rw [stepElement_eq, attribute?_tag]
    simp [List.lookup_cons]
  have fields : attributeField (stepElement space step) "name" ++
      attributeField (stepElement space step) "backend" =
        [(.text "name", .text step.name)] := by
    unfold attributeField
    rw [stepElement_eq, attribute?_tag, attribute?_tag]
    simp [List.lookup_cons]
  have noted : (noteForeign (stepElement space step)).Gives () := by
    rw [stepElement_eq]
    exact gives_noteForeign own
  have data := gives_stepData own step canonical
  simp only [documentOf, if_pos (nameOf?_stepElement step), gives_bind, isVersion, List.append_assoc,
    fields]
  constructor
  · rintro ⟨_, _, root, isRoot, read⟩
    rw [gives_unique isRoot data] at read
    exact read
  · intro read
    exact ⟨(), noted, _, data, read⟩

/-- The element of a step that can be written is accepted, and its tree is the step, if and only if
the limits of downloads do not have too many digits. -/
theorem ofXml_stepElement_iff (own : Own space) {step : Step}
    (canonical : ∀ node ∈ step.nodes, Canonical node) (safe : step.TextSafe) :
    (ofXml (stepElement space step)).map (·.root) = .ok step ↔
      ∀ node ∈ step.nodes, LimitsReadable node := by
  unfold ofXml
  constructor
  · intro loads
    cases accepted : (documentOf (stepElement space step)).outcome with
    | error refusal =>
      rw [accepted] at loads
      cases loads
    | ok d =>
      have read := (gives_documentOf_iff own canonical).mp (outcome_eq_ok_iff.mp accepted)
      have limits := limitRead_of_gives_step step canonical (gives_root_of_document rfl read)
      intro node isNode d isDeclared n isLimit
      cases (canonical node isNode).sound.declarations _ isDeclared with
      | download _ _ positive =>
        exact lt_of_limitRead_textual isLimit (positive n isLimit) (limits node isNode d isDeclared)
  · intro readable
    have read : (Reading.step "root" (.map (textual.stepData step))).Gives (some step) := by
      apply gives_step legible_textual step _ safe
      intro node isNode
      exact writes_textual (canonical node isNode) (readable node isNode)
    have only : OnlyFields ["version", "root", "name"] (elementData step) := by simp [elementData]
    obtain ⟨d, accepted, isRoot⟩ := exists_document only rfl (.inr ⟨step.name, rfl⟩) rfl read
    rw [outcome_eq_ok_iff.mpr ((gives_documentOf_iff own canonical).mpr accepted)]
    exact congrArg Except.ok isRoot

end

/-- Both descriptions of a step that can be written are accepted, and both have it as their tree: the
data in any case, and the element if and only if the limits of downloads do not have more digits
than are read. -/
theorem data_and_element_load {space : Option String} (own : Own space) {step : Step}
    (canonical : ∀ node ∈ step.nodes, Canonical node) (safe : step.TextSafe) :
    (ofEntries (described step)).map (·.root) = .ok step ∧
      ((ofXml (stepElement space step)).map (·.root) = .ok step ↔
        ∀ node ∈ step.nodes, LimitsReadable node) :=
  ⟨ofEntries_described canonical safe, ofXml_stepElement_iff own canonical safe⟩

/-- A step that downloads a page up to a limit, chooses a year, and returns both. -/
def pageStep (limit : Int) : Step where
  name := "page"
  prompt := some "Which year?"
  declarations :=
    [.fixed "topic" "dragons", .download ⟨"page", "a:b", .markdown, some limit⟩,
      .generated ⟨"year", some "[0-9]+", true, ["1900", "2000"]⟩]
  validators := [⟨"Is it a year?", none, "yes"⟩, ⟨"${year}", some "^3", "no"⟩]
  returns := some (.record [(some "page", .leaf (some "${page}")), (none, .leaf (some ""))])
  children := []

theorem canonical_pageStep {limit : Int} (positive : 1 ≤ limit) :
    ∀ node ∈ (pageStep limit).nodes, Canonical node := by
  have digits : KeptPattern (some "[0-9]+") := by
    rintro _ ⟨⟩
    exact ⟨by decide, _, rfl⟩
  have three : KeptPattern (some "^3") := by
    rintro _ ⟨⟩
    exact ⟨by decide, _, rfl⟩
  have trimmed : Trimmed "a:b" := by
    constructor
    · rintro _ ⟨⟩
      decide
    · rintro _ ⟨⟩
      decide
  intro node isNode
  obtain rfl := List.mem_singleton.mp isNode
  refine ⟨⟨?_, ?_, ?_⟩, ?_, by simp, ?_⟩
  · intro declaration isDeclared
    simp only [List.mem_cons, List.not_mem_nil, or_false] at isDeclared
    rcases isDeclared with rfl | rfl | rfl
    · exact .fixed _ _
    · refine .download (by simp) trimmed ?_
      rintro _ ⟨⟩
      exact positive
    · exact .generated digits
  · intro v isValidator
    simp only [List.mem_cons, List.not_mem_nil, or_false] at isValidator
    rcases isValidator with rfl | rfl
    · exact ⟨by rintro _ ⟨⟩, .inl rfl⟩
    · exact ⟨three, .inr rfl⟩
  · rintro _ ⟨⟩
    simp [Projection.parts, Projection.partsOf, Projection.WellFormed, Projection.items,
      Projection.template?]
    rintro _ _ (⟨rfl, _⟩ | ⟨rfl, _⟩) <;> simp
  · intro declaration isDeclared
    simp only [List.mem_cons, List.not_mem_nil, or_false] at isDeclared
    rcases isDeclared with rfl | rfl | rfl
    · exact (by decide : isName "topic" = true)
    · exact (by decide : isName "page" = true)
    · exact (by decide : isName "year" = true)
  · rintro _ ⟨⟩
    simp [Projection.parts, Projection.partsOf]

theorem textSafe_pageStep (limit : Int) : (pageStep limit).TextSafe := by
  rw [Step.textSafe_iff]
  constructor
  · intro before child after cut
    simp [pageStep] at cut
  · simp [pageStep]

theorem limitsReadable_pageStep_iff {limit : Int} :
    (∀ node ∈ (pageStep limit).nodes, LimitsReadable node) ↔
      limit.toNat < 10 ^ Text.maxNumberDigits := by
  constructor
  · intro readable
    exact readable _ List.mem_cons_self _ (List.mem_cons_of_mem _ List.mem_cons_self) limit rfl
  · intro short node isNode d isDeclared n isLimit
    obtain rfl := List.mem_singleton.mp isNode
    simp only [List.mem_cons, List.not_mem_nil, or_false, reduceCtorEq, false_or,
      Declaration.download.injEq] at isDeclared
    cases isDeclared
    cases isLimit
    exact short

theorem data_and_element_load_pageStep :
    (∀ node ∈ (pageStep 9).nodes, Canonical node) ∧ (pageStep 9).TextSafe ∧
      (ofEntries (described (pageStep 9))).map (·.root) = .ok (pageStep 9) ∧
      (ofXml (stepElement none (pageStep 9))).map (·.root) = .ok (pageStep 9) := by
  have canonical := canonical_pageStep (by decide : (1 : Int) ≤ 9)
  have loads := data_and_element_load (.inl rfl) canonical (textSafe_pageStep 9)
  have short : (9 : Int).toNat < 10 ^ Text.maxNumberDigits := by
    exact Nat.lt_of_lt_of_le (by decide : 9 < 10 ^ 1) (Nat.pow_le_pow_right (by decide) (by decide))
  exact ⟨canonical, textSafe_pageStep 9, loads.1, loads.2.mpr (limitsReadable_pageStep_iff.mpr short)⟩

/-- A limit that has one digit more than are read can be written as a number, but not as a text. -/
theorem not_every_element_loads :
    ¬ ∀ (space : Option String) (step : Step), Own space →
      (∀ node ∈ step.nodes, Canonical node) → step.TextSafe →
      (ofXml (stepElement space step)).map (·.root) = .ok step ∧
        (ofEntries (described step)).map (·.root) = .ok step := by
  intro claimed
  have canonical : ∀ node ∈ (pageStep (10 ^ Text.maxNumberDigits : Nat)).nodes, Canonical node := by
    apply canonical_pageStep
    exact Int.natCast_pos.mpr (Nat.pow_pos (by decide))
  have loads := (claimed none (pageStep (10 ^ Text.maxNumberDigits : Nat)) (.inl rfl) canonical
    (textSafe_pageStep _)).1
  rw [ofXml_stepElement_iff (.inl rfl) canonical (textSafe_pageStep _),
    limitsReadable_pageStep_iff, Int.toNat_natCast] at loads
  exact Nat.lt_irrefl _ loads

end PromptTree.Document.Vocabulary
