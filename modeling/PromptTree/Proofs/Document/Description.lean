import Mathlib.Data.List.Forall2
import PromptTree.Proofs.Document.Clean
import PromptTree.Proofs.Workflow.Tree

/-!
What the data of a workflow says, part by part: which fields it may have, and which variable, test,
return value, step and workflow it describes. The relations follow the data, not the reader; none of
them leaves out an item of a list.
-/

namespace PromptTree

theorem Value.asText?_eq_some_iff {v : Value} {s : String} : v.asText? = some s ↔ v = .text s := by
  cases v <;> simp [asText?]

namespace Document

open Reading

def OnlyFields (fields : List String) (entries : Entries) : Prop :=
  ∀ entry ∈ entries, ∃ field ∈ fields, entry.1 = .text field

/-- The items of a field that is a list; a field that is absent has none. -/
inductive Listed (entries : Entries) (key : String) : List Value → Prop where
  | absent : fieldOf entries key = .null → Listed entries key []
  | list {items : List Value} : fieldOf entries key = .list items → Listed entries key items

/-- The text of a field, unless it is absent or empty. -/
inductive TextField : Value → Option String → Prop where
  | absent : TextField .null none
  | empty : TextField (.text "") none
  | text {s : String} : s ≠ "" → TextField (.text s) (some s)

def Compiles (pattern : String) : Prop :=
  ∃ regex, Regex.read {} pattern = .ok regex

/-- A pattern that is kept is not empty, and it is a pattern. -/
def KeptPattern (pattern : Option String) : Prop :=
  ∀ text, pattern = some text → text ≠ "" ∧ Compiles text

def Trimmed (text : String) : Prop :=
  (∀ c, text.toList.head? = some c → Text.isBlank c = false) ∧
    ∀ c, text.toList.getLast? = some c → Text.isBlank c = false

theorem trimmed_trim (s : String) : Trimmed (Text.trim s) := by
  have lead (cs : List Char) (c : Char) (first : (cs.dropWhile Text.isBlank).head? = some c) :
      Text.isBlank c = false := by
    have atHead := List.head?_dropWhile_not Text.isBlank cs
    rw [first] at atHead
    simpa using atHead
  unfold Trimmed Text.trim Text.trimWhile Text.dropEndWhile
  rw [String.toList_ofList]
  constructor
  · intro c first
    have kept := List.dropWhile_suffix (l := (s.toList.dropWhile Text.isBlank).reverse) Text.isBlank
    obtain ⟨rest, whole⟩ := List.reverse_prefix.mpr kept
    rw [List.reverse_reverse] at whole
    apply lead s.toList
    rw [← whole, List.head?_append, first]
    rfl
  · intro c last
    rw [List.getLast?_reverse] at last
    exact lead _ c last

/-- The address of a download: under its own name, or else the value. -/
def addressOf (entries : Entries) : Value :=
  (Entries.get? entries "url").getD (fieldOf entries "value")

inductive Declares : Value → Declaration → Prop where
  | fixed {entries : Entries} {name value : String} :
    OnlyFields variableFields entries → fieldOf entries "name" = .text name →
    (fieldOf entries "value").toText = .ok value →
    Declares (.map entries) (.fixed name value)
  | generated {entries : Entries} {g : Generated} {options : List Value} :
    OnlyFields variableFields entries → fieldOf entries "name" = .text g.name →
    TextField (fieldOf entries "pattern") g.pattern → KeptPattern g.pattern →
    (usedField? entries "options" = none ∧ options = [] ∨
      usedField? entries "options" = some (.list options)) →
    List.Forall₂ (fun v text => v.toText = .ok text) options g.options →
    Declares (.map entries) (.generated g)
  | download {entries : Entries} {d : Download} {address : String} :
    OnlyFields variableFields entries → fieldOf entries "name" = .text d.name →
    addressOf entries = .text address → d.source = Text.trim address → d.source ≠ "" →
    (∀ n, d.limit = some n → 1 ≤ n) →
    Declares (.map entries) (.download d)

inductive Tests : Value → Validator → Prop where
  | text (s : String) : Tests (.text s) ⟨s, none, "yes"⟩
  | map {entries : Entries} {v : Validator} :
    OnlyFields testFields entries → fieldOf entries "text" = .text v.text →
    TextField (fieldOf entries "pattern") v.pattern → KeptPattern v.pattern →
    (usedField? entries "expect" = none ∧ v.expect = "yes" ∨
      usedField? entries "expect" = some (.text v.expect)) →
    v.expect = "yes" ∨ v.expect = "no" →
    Tests (.map entries) v

/-- The name that a map gives an item; nothing else gives one. -/
inductive ItemName : Value → Option String → Prop where
  | map {entries : Entries} {name : Option String} :
    TextField (fieldOf entries "name") name → ItemName (.map entries) name
  | other {v : Value} : v.asMap? = none → ItemName v none

mutual

/-- The projection that a value describes: a text, a list of items, or either as a field of a map.
-/
inductive Returns : Value → Projection → Prop where
  | text {v : Value} {text : String} :
    v.asMap? = none → v.asList? = none → v.toText = .ok text → Returns v (.leaf (some text))
  | list {raw : List Value} {items : List (Option String × Projection)} :
    ReturnsItems raw items → Returns (.list raw) (.ofItems items)
  | value {entries : Entries} {text : String} :
    OnlyFields returnFields entries → Entries.get? entries "items" = none →
    (fieldOf entries "value").toText = .ok text → Returns (.map entries) (.leaf (some text))
  | items {entries : Entries} {raw : List Value} {items : List (Option String × Projection)} :
    OnlyFields returnFields entries → Entries.get? entries "items" = some (.list raw) →
    Entries.get? entries "value" = none → ReturnsItems raw items →
    Returns (.map entries) (.ofItems items)

/-- The items that some values describe, one for each value. -/
inductive ReturnsItems : List Value → List (Option String × Projection) → Prop where
  | nil : ReturnsItems [] []
  | cons {v : Value} {vs : List Value} {name : Option String} {projection : Projection}
    {items : List (Option String × Projection)} :
    ItemName v name → Returns v projection → ReturnsItems vs items →
    ReturnsItems (v :: vs) ((name, projection) :: items)

end

/-- The step that a map describes: one variable, one test and one child for each item of the field.
-/
inductive Mirrors : Value → Step → Prop where
  | step {entries : Entries} {step : Step} {declared tests steps : List Value} :
    OnlyFields stepFields entries →
    (usedField? entries "name" = none ∧ step.name = "" ∨
      usedField? entries "name" = some (.text step.name)) →
    TextField (fieldOf entries "prompt") step.prompt →
    Listed entries "vars" declared → List.Forall₂ Declares declared step.declarations →
    Listed entries "tests" tests → List.Forall₂ Tests tests step.validators →
    Option.Rel Returns (Entries.get? entries "return") step.returns →
    Listed entries "steps" steps → List.Forall₂ Mirrors steps step.children →
    Mirrors (.map entries) step

end Document

end PromptTree
