import PromptTree.Document.Mapping
import PromptTree.Proofs.Document.Steps

/-!
What is accepted is what was written. Main statement: the workflow that is made of a description has
one part for each part of the description, none of which has a field that is not known, and every
step in it is sound (`ofEntries_sound`).
-/

namespace PromptTree

namespace Projection

/-- The template of a projection; a record has none. -/
def template? : Projection → Option String
  | leaf template => template
  | record _ => none

/-- The items of a projection; a text has none. -/
def items : Projection → List (Option String × Projection)
  | leaf _ => []
  | record items => items

mutual

/-- The projections in a projection: itself, and those in its items. -/
def parts : Projection → List Projection
  | leaf template => [leaf template]
  | record items => record items :: partsOf items
termination_by structural projection => projection

def partsOf : List (Option String × Projection) → List Projection
  | [] => []
  | (_, projection) :: items => projection.parts ++ partsOf items
termination_by structural items => items

end

/-- No item has an empty name, and a projection with items has no template. -/
def WellFormed (projection : Projection) : Prop :=
  (∀ item ∈ projection.items, item.1 ≠ some "") ∧
    (projection.items ≠ [] → projection.template? = none)

end Projection

namespace Document

open Reading

/-- What is kept of a variable can be used: its pattern compiles, its address is an address, its
limit lets something through. -/
inductive SoundDeclaration : Declaration → Prop where
  | fixed (name template : String) : SoundDeclaration (.fixed name template)
  | generated {g : Generated} : KeptPattern g.pattern → SoundDeclaration (.generated g)
  | download {d : Download} : d.source ≠ "" → Trimmed d.source → (∀ n, d.limit = some n → 1 ≤ n) →
    SoundDeclaration (.download d)

/-- What is kept of a step can be used. -/
structure SoundStep (step : Step) : Prop where
  declarations : ∀ declaration ∈ step.declarations, SoundDeclaration declaration
  validators : ∀ v ∈ step.validators, KeptPattern v.pattern ∧ (v.expect = "yes" ∨ v.expect = "no")
  returns : ∀ projection, step.returns = some projection →
    ∀ part ∈ projection.parts, part.WellFormed

theorem soundDeclaration_of_declares {v : Value} {declaration : Declaration}
    (declares : Declares v declaration) : SoundDeclaration declaration := by
  cases declares with
  | fixed => exact .fixed _ _
  | generated _ _ _ kept => exact .generated kept
  | download _ _ _ trimmed used limit => exact .download used (trimmed ▸ trimmed_trim _) limit

theorem soundValidator_of_tests {v : Value} {validator : Validator} (tests : Tests v validator) :
    KeptPattern validator.pattern ∧ (validator.expect = "yes" ∨ validator.expect = "no") := by
  cases tests with
  | text => exact ⟨by simp [KeptPattern], .inl rfl⟩
  | map _ _ _ kept _ expected => exact ⟨kept, expected⟩

theorem textField_ne_empty {v : Value} {kept : Option String} (field : TextField v kept) :
    kept ≠ some "" := by
  cases field with
  | absent => exact nofun
  | empty => exact nofun
  | text used => simpa using used

theorem itemName_ne_empty {v : Value} {name : Option String} (named : ItemName v name) :
    name ≠ some "" := by
  cases named with
  | map written => exact textField_ne_empty written
  | other => exact nofun

theorem wellFormed_parts_ofItems {items : List (Option String × Projection)}
    (named : ∀ item ∈ items, item.1 ≠ some "")
    (wellFormed : ∀ part ∈ Projection.partsOf items, part.WellFormed) :
    ∀ part ∈ (Projection.ofItems items).parts, part.WellFormed := by
  cases items with
  | nil => simp [Projection.ofItems, Projection.parts, Projection.WellFormed, Projection.items]
  | cons item items =>
    rw [Projection.ofItems, Projection.parts, List.forall_mem_cons]
    · exact ⟨⟨named, fun _ => rfl⟩, wellFormed⟩
    · exact nofun

mutual

theorem wellFormed_of_returns {v : Value} {projection : Projection} :
    Returns v projection → ∀ part ∈ projection.parts, part.WellFormed
  | .text .. => by simp [Projection.parts, Projection.WellFormed, Projection.items]
  | .value .. => by simp [Projection.parts, Projection.WellFormed, Projection.items]
  | .list described =>
    have items := wellFormed_of_returnsItems described
    wellFormed_parts_ofItems items.1 items.2
  | .items _ _ _ described =>
    have items := wellFormed_of_returnsItems described
    wellFormed_parts_ofItems items.1 items.2

theorem wellFormed_of_returnsItems {vs : List Value} {items : List (Option String × Projection)} :
    ReturnsItems vs items →
      (∀ item ∈ items, item.1 ≠ some "") ∧ ∀ part ∈ Projection.partsOf items, part.WellFormed
  | .nil => by simp [Projection.partsOf]
  | .cons named first rest => by
    have items := wellFormed_of_returnsItems rest
    refine ⟨List.forall_mem_cons.mpr ⟨itemName_ne_empty named, items.1⟩, ?_⟩
    rw [Projection.partsOf, List.forall_mem_append]
    exact ⟨wellFormed_of_returns first, items.2⟩

end

/-- Every item that a list describes is described by an item of the list. -/
theorem exists_of_mem_forall₂ {α β : Type} {describes : α → β → Prop} {as : List α} {bs : List β}
    (described : List.Forall₂ describes as bs) : ∀ b ∈ bs, ∃ a, describes a b := by
  induction described with
  | nil => simp
  | cons first _ inductionHypothesis =>
    exact List.forall_mem_cons.mpr ⟨⟨_, first⟩, inductionHypothesis⟩

theorem soundStep_of_mirrors {v : Value} {step : Step} (mirrors : Mirrors v step) :
    SoundStep step := by
  cases mirrors with
  | step _ _ _ _ declares _ tests returned =>
    constructor
    · intro declaration isDeclaration
      obtain ⟨_, declares⟩ := exists_of_mem_forall₂ declares declaration isDeclaration
      exact soundDeclaration_of_declares declares
    · intro validator isValidator
      obtain ⟨_, tests⟩ := exists_of_mem_forall₂ tests validator isValidator
      exact soundValidator_of_tests tests
    · intro projection returns
      rw [returns] at returned
      generalize Entries.get? _ _ = field at returned
      cases returned with
      | some returned => exact wellFormed_of_returns returned

/-- Every step in a tree that mirrors data is sound. -/
theorem forall_nodes_sound {step : Step} : ∀ {v : Value}, Mirrors v step →
    ∀ node ∈ step.nodes, SoundStep node := by
  induction step using Step.byChildren with
  | hereditary step inductionHypothesis =>
    intro v mirrors
    refine Step.forall_nodes_iff.mpr ⟨soundStep_of_mirrors mirrors, ?_⟩
    cases mirrors with
    | step _ _ _ _ _ _ _ _ _ children =>
      intro child isChild
      obtain ⟨_, mirrors⟩ := exists_of_mem_forall₂ children child isChild
      exact inductionHypothesis child isChild mirrors

/-- The backends that the description brings; none of them has a field that is not known. -/
inductive Brings (entries : Entries) : Entries → Prop where
  | none : Entries.get? entries "backends" = none → Brings entries []
  | some {backends : Entries} : Entries.get? entries "backends" = some (.map backends) →
    (∀ entry ∈ backends, ∃ fields, entry.2 = .map fields ∧ OnlyFields backendFields fields) →
    Brings entries backends

/-- The workflow has one part for each part of the description, which has no field that is not
known. -/
structure Describes (entries : Entries) (document : Document) : Prop where
  fields : OnlyFields topFields entries
  backends : Brings entries document.backends
  root : ∃ v, Entries.get? entries "root" = some v ∧ Mirrors v document.root

namespace Reading

theorem backendEntry_of_gives {name : String} {v : Value} {u : Unit}
    (clean : (backendEntry name v).Gives u) :
    ∃ fields, v = .map fields ∧ OnlyFields backendFields fields := by
  cases v with
  | map fields =>
    simp only [backendEntry, gives_bind] at clean
    obtain ⟨_, known, _⟩ := clean
    exact ⟨fields, rfl, onlyFields_of_gives known⟩
  | _ => simp [backendEntry] at clean

theorem backendEntries_of_gives {entries : Entries} {u : Unit}
    (clean : (backendEntries entries).Gives u) :
    ∀ entry ∈ entries, ∃ fields, entry.2 = .map fields ∧ OnlyFields backendFields fields := by
  induction entries with
  | nil => simp
  | cons entry rest inductionHypothesis =>
    obtain ⟨key, v⟩ := entry
    simp only [backendEntries, gives_bind] at clean
    obtain ⟨_, first, others⟩ := clean
    exact List.forall_mem_cons.mpr ⟨backendEntry_of_gives first, inductionHypothesis others⟩

theorem brings_of_gives {entries backends : Entries} (clean : (backendsOf entries).Gives backends) :
    Brings entries backends := by
  unfold backendsOf at clean
  split at clean
  · next absent =>
    obtain rfl := gives_of.mp clean
    exact .none absent
  · next brought isMap =>
    simp only [gives_bind, gives_pure] at clean
    obtain ⟨_, checked, rfl⟩ := clean
    exact .some isMap (backendEntries_of_gives checked)
  · simp at clean

/-- A version that is accepted is one that is supported. -/
theorem version_of_gives {entries : Entries} {read : String}
    (clean : (version entries).Gives read) :
    read ∈ supportedVersions := by
  unfold version at clean
  split at clean
  · simp at clean
  · split at clean
    · next supported =>
      obtain rfl := gives_pure.mp clean
      simpa using supported
    · simp at clean

/-- A description without a problem has a workflow, and it is the one that is described. -/
theorem describes_of_gives {entries : Entries} {found : Option Document}
    (clean : (document entries).Gives found) :
    ∃ d, found = some d ∧ Describes entries d ∧ d.root.TextSafe := by
  simp only [document, gives_bind] at clean
  obtain ⟨version, versionRead, clean⟩ := clean
  have supported := version_of_gives versionRead
  split at clean
  · next empty => simp_all [supportedVersions]
  · simp only [gives_bind, gives_pure] at clean
    obtain ⟨_, known, name, _, backend, _, backends, backendsRead, context, _, root, rootRead,
      rfl⟩ := clean
    unfold rootOf at rootRead
    split at rootRead
    · next v held =>
      obtain ⟨built, rfl, mirrors, safe⟩ := mirrors_of_gives v rootRead
      exact ⟨_, rfl,
        ⟨onlyFields_of_gives known, brings_of_gives backendsRead, v, held, mirrors⟩, safe⟩
    · simp at rootRead

end Reading

/-- A description that is accepted has one part of the workflow for each of its parts, and only
fields that are known; and what is kept of it can be used. -/
theorem ofEntries_sound {entries : Entries} {document : Document}
    (accepted : ofEntries entries = .ok document) :
    Describes entries document ∧ ∀ node ∈ document.root.nodes, SoundStep node := by
  obtain ⟨_, ⟨⟩, describes, _⟩ := describes_of_gives (outcome_eq_ok_iff.mp accepted)
  obtain ⟨v, _, mirrors⟩ := describes.root
  exact ⟨describes, forall_nodes_sound mirrors⟩

/-- A workflow that asks for a year, with a part of every kind. -/
def yearQuestion : Entries := Entries.ofFields
  [("version", .text "1"),
    ("backends", .map (Entries.ofFields
      [("local", .map (Entries.ofFields [("model", .text "small")]))])),
    ("root", .map (Entries.ofFields
      [("name", .text "ask"),
        ("prompt", .text "Which year?"),
        ("vars", .list
          [.map (Entries.ofFields
              [("name", .text "year"), ("generate", .text "yes"), ("pattern", .text "[0-9]+")]),
            .map (Entries.ofFields
              [("name", .text "page"), ("source", .text "download"), ("url", .text " a:b "),
                ("limit", .int 9)])]),
        ("tests", .list [.text "Is it a year?"]),
        ("steps", .list
          [.map (Entries.ofFields
            [("return", .list [.text "a", .map (Entries.ofFields [("name", .text "b")])])])])]))]

theorem ofEntries_sound_yearQuestion :
    ∃ document, ofEntries yearQuestion = .ok document ∧ Describes yearQuestion document ∧
      ∀ node ∈ document.root.nodes, SoundStep node :=
  ⟨_, rfl, ofEntries_sound rfl⟩

end Document

end PromptTree
