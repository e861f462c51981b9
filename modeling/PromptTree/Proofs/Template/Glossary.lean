import Mathlib.Data.Fintype.Card
import Mathlib.Data.Set.Finite.Basic
import Mathlib.Data.Set.List
import Mathlib.Logic.Relation
import PromptTree.Proofs.Template.Plain
import PromptTree.Scope

/-!
Glossaries: scopes of plain templates that do not refer to each other in a circle. Main statements:
the references of a glossary can be followed only finitely far (`wellFounded_below`), so that a
plain template has a rank and a full expansion; replacing each reference once leaves the expansion
the same (`expand_substitute`) and takes one from the rank (`rank_substitute`).
-/

namespace PromptTree.Template

/-- The value of a name refers to another name that has a value. -/
def Refers (entries : List (Name × Plain)) (name other : Name) : Prop :=
  ∃ value, entries.lookup name = some value ∧ other ∈ references value ∧
    (entries.lookup other).isSome

/-- Names with plain templates as their values; no name leads back to itself. -/
structure Glossary where
  entries : List (Name × Plain)
  nodup : (entries.map Prod.fst).Nodup
  acyclic : ∀ name, ¬ Relation.TransGen (Refers entries) name name

/-- Names that are numbered so that each refers only to names with smaller numbers do not lead in a
circle. -/
theorem acyclic_of_falls {entries : List (Name × Plain)} (number : Name → Nat)
    (falls : ∀ name other, Refers entries name other → number other < number name) (name : Name) :
    ¬ Relation.TransGen (Refers entries) name name := by
  have smaller {other : Name} (leads : Relation.TransGen (Refers entries) name other) :
      number other < number name := by
    induction leads with
    | single refers => exact falls _ _ refers
    | tail _ refers inductionHypothesis => exact (falls _ _ refers).trans inductionHypothesis
  exact fun circle => (smaller circle).false

namespace Glossary

variable (glossary : Glossary)

def lookup (name : Name) : Option Plain :=
  glossary.entries.lookup name

def writeEntry (entry : Name × Plain) : String × String :=
  (String.ofList entry.1.1, String.ofList (write entry.2))

def scope : Scope where
  entries := glossary.entries.map writeEntry
  nodup := by
    have distinct := glossary.nodup.map (f := fun name : Name => String.ofList name.1)
      (fun first second same => Subtype.ext (String.ofList_injective same))
    simpa only [List.map_map, Function.comp_def, writeEntry] using distinct

theorem lookup_map_writeEntry (entries : List (Name × Plain)) (name : Name) :
    (entries.map writeEntry).lookup (String.ofList name.1) =
      (entries.lookup name).map fun value => String.ofList (write value) := by
  induction entries with
  | nil => rfl
  | cons entry entries inductionHypothesis =>
    obtain ⟨other, value⟩ := entry
    by_cases same : name = other
    · subst same
      simp [writeEntry]
    · have different : (name == other) = false := beq_false_of_ne same
      have written : (String.ofList name.1 == String.ofList other.1) = false :=
        beq_false_of_ne fun equal => same (Subtype.ext (String.ofList_injective equal))
      rw [List.map_cons, writeEntry, List.lookup_cons, List.lookup_cons, different, written]
      exact inductionHypothesis

theorem get?_scope (name : Name) :
    glossary.scope.get? (String.ofList name.1) =
      (glossary.lookup name).map fun value => String.ofList (write value) :=
  lookup_map_writeEntry glossary.entries name

/-- The text of a name is a plain template that refers to another name of the scope. -/
def RefersIn (scope : Scope) (name other : String) : Prop :=
  ∃ value, scope.get? name = some (String.ofList (write value)) ∧
    (∃ reference ∈ references value, other = String.ofList reference.1) ∧ scope.has other

/-- Every scope is that of a glossary whose names are names of plain references, whose texts are
plain templates, and in which no name leads back to itself. -/
theorem exists_scope_eq {scope : Scope}
    (written : ∀ entry ∈ scope.entries, ∃ plain, entry = writeEntry plain)
    (acyclic : ∀ name, ¬ Relation.TransGen (RefersIn scope) name name) :
    ∃ glossary : Glossary, glossary.scope = scope := by
  obtain ⟨entries, nodup⟩ := scope
  replace written : ∀ entry ∈ entries, ∃ plain, entry = writeEntry plain := written
  have lifted : entries ∈ Set.range (List.map writeEntry) := by
    rw [Set.range_list_map]
    exact fun entry isEntry => (written entry isEntry).imp fun _ => Eq.symm
  obtain ⟨plains, rfl⟩ := lifted
  have distinct : (plains.map Prod.fst).Nodup := by
    have names : (plains.map writeEntry).map Prod.fst =
        (plains.map Prod.fst).map fun name => String.ofList name.1 := by
      simp [writeEntry]
    rw [names] at nodup
    exact nodup.of_map
  have acyclicPlains (name : Name) : ¬ Relation.TransGen (Refers plains) name name := by
    intro circle
    refine acyclic _ (circle.lift (fun name => String.ofList name.1) ?_)
    rintro name other ⟨value, found, isReference, defined⟩
    refine ⟨value, ?_, ⟨other, isReference, rfl⟩, ?_⟩
    · exact (lookup_map_writeEntry plains name).trans (by rw [found]; rfl)
    · have otherFound := lookup_map_writeEntry plains other
      obtain ⟨otherValue, isValue⟩ := Option.isSome_iff_exists.mp defined
      rw [isValue] at otherFound
      exact Option.isSome_iff_exists.mpr ⟨_, otherFound⟩
  exact ⟨⟨plains, distinct, acyclicPlains⟩, rfl⟩

/-- The values of the defined names that a plain template refers to. -/
def values (text : Plain) : List Plain :=
  (references text).filterMap glossary.lookup

theorem mem_values_iff {value text : Plain} :
    value ∈ glossary.values text ↔ ∃ name ∈ references text, glossary.lookup name = some value :=
  List.mem_filterMap

theorem mem_names_of_lookup {name : Name} {value : Plain}
    (found : glossary.lookup name = some value) :
    name ∈ glossary.entries.map Prod.fst := by
  obtain ⟨before, after, cut, _⟩ := List.lookup_eq_some_iff.mp found
  rw [cut]
  simp

/-- No reference can be followed for ever: the names with a value are finitely many, and none leads
back to itself. -/
theorem wellFounded_below : WellFounded fun value text => value ∈ glossary.values text := by
  let Defined := { name // name ∈ glossary.entries.map Prod.fst }
  have finite : Finite Defined := (List.finite_toSet _).to_subtype
  have transitive : IsTrans Defined fun other name =>
      Relation.TransGen (Refers glossary.entries) name.1 other.1 :=
    ⟨fun _ _ _ below above => above.trans below⟩
  have irreflexive : Std.Irrefl fun other name : Defined =>
      Relation.TransGen (Refers glossary.entries) name.1 other.1 :=
    ⟨fun name => glossary.acyclic name.1⟩
  have wellFounded := Finite.wellFounded_of_trans_of_irrefl fun other name : Defined =>
    Relation.TransGen (Refers glossary.entries) name.1 other.1
  have ofValue (name : Defined) : ∀ value, glossary.lookup name.1 = some value →
      Acc (fun value text => value ∈ glossary.values text) value := by
    induction name using wellFounded.induction with
    | _ name inductionHypothesis =>
      intro value found
      refine Acc.intro value fun next isValue => ?_
      obtain ⟨other, isReference, otherFound⟩ := glossary.mem_values_iff.mp isValue
      have refers : Refers glossary.entries name.1 other :=
        ⟨value, found, isReference, Option.isSome_iff_exists.mpr ⟨next, otherFound⟩⟩
      exact inductionHypothesis ⟨other, glossary.mem_names_of_lookup otherFound⟩
        (.single refers) next
        otherFound
  refine ⟨fun text => Acc.intro text fun value isValue => ?_⟩
  obtain ⟨name, _, found⟩ := glossary.mem_values_iff.mp isValue
  exact ofValue ⟨name, glossary.mem_names_of_lookup found⟩ value found

/-- How far the references of a plain template lead: nowhere if it refers to no defined name, and
else one further than those of the values that it refers to. -/
def rank (text : Plain) : Nat :=
  ((glossary.values text).attach.map fun value => rank value.1 + 1).foldr max 0
termination_by glossary.wellFounded_below.wrap text
decreasing_by exact value.2

/-- The plain template with every reference to a defined name replaced by the expansion of its
value. -/
def expand (text : Plain) : List Char :=
  text.attach.flatMap fun fragment =>
    match fragment with
    | ⟨.literal text _, _⟩ => text
    | ⟨.reference name, _⟩ =>
      match _ : glossary.lookup name with
      | none => writeReference name
      | some value => expand value
termination_by glossary.wellFounded_below.wrap text
decreasing_by
  rename_i isFragment found
  have isReference : name ∈ references text := List.mem_filterMap.mpr ⟨_, isFragment, rfl⟩
  exact glossary.mem_values_iff.mpr ⟨name, isReference, found⟩

theorem rank_eq (text : Plain) :
    glossary.rank text =
      ((glossary.values text).map fun value => glossary.rank value + 1).foldr max 0 := by
  rw [rank, List.attach_map_val (f := fun value => glossary.rank value + 1)]

def expandFragment : Fragment → List Char
  | .literal text _ => text
  | .reference name => ((glossary.lookup name).map glossary.expand).getD (writeReference name)

theorem expand_eq (text : Plain) : glossary.expand text = text.flatMap glossary.expandFragment := by
  rw [expand, List.flatMap_subtype (g := glossary.expandFragment), List.unattach_attach]
  rintro (⟨text, _⟩ | name) isFragment
  · rfl
  · dsimp only [expandFragment]
    split
    · next undefined => rw [undefined]; rfl
    · next value found => rw [found]; rfl

/-! ### One replacement -/

def substituteFragment : Fragment → Plain
  | .literal text unmarked => [.literal text unmarked]
  | .reference name => (glossary.lookup name).getD [.reference name]

/-- The plain template with every reference to a defined name replaced by its value. -/
def substitute (text : Plain) : Plain :=
  text.flatMap glossary.substituteFragment

theorem expand_append (first second : Plain) :
    glossary.expand (first ++ second) = glossary.expand first ++ glossary.expand second := by
  rw [expand_eq, expand_eq, expand_eq, List.flatMap_append]

theorem expand_cons (fragment : Fragment) (text : Plain) :
    glossary.expand (fragment :: text) =
      glossary.expandFragment fragment ++ glossary.expand text := by
  rw [expand_eq, expand_eq, List.flatMap_cons]

theorem expand_substituteFragment (fragment : Fragment) :
    glossary.expand (glossary.substituteFragment fragment) = glossary.expandFragment fragment := by
  cases fragment with
  | literal text unmarked => simp [substituteFragment, expand_eq, expandFragment]
  | reference name =>
    cases found : glossary.lookup name with
    | none => simp [substituteFragment, expand_eq, expandFragment, found]
    | some value => simp [substituteFragment, expandFragment, found]

/-- A replacement changes nothing in what is expanded. -/
theorem expand_substitute (text : Plain) :
    glossary.expand (glossary.substitute text) = glossary.expand text := by
  induction text with
  | nil => rfl
  | cons fragment text inductionHypothesis =>
    calc glossary.expand (glossary.substitute (fragment :: text))
      _ = glossary.expand (glossary.substituteFragment fragment ++ glossary.substitute text) := by
        rw [substitute, List.flatMap_cons, substitute]
      _ = glossary.expandFragment fragment ++ glossary.expand text := by
        rw [expand_append, expand_substituteFragment, inductionHypothesis]
      _ = glossary.expand (fragment :: text) := (glossary.expand_cons fragment text).symm

/-! ### Ranks -/

theorem foldr_max_append (first second : List Nat) :
    (first ++ second).foldr max 0 = max (first.foldr max 0) (second.foldr max 0) := by
  induction first with
  | nil => simp
  | cons n first inductionHypothesis =>
    rw [List.cons_append, List.foldr_cons, List.foldr_cons, inductionHypothesis, Nat.max_assoc]

theorem values_append (first second : Plain) :
    glossary.values (first ++ second) = glossary.values first ++ glossary.values second := by
  simp [values, references]

theorem rank_append (first second : Plain) :
    glossary.rank (first ++ second) = max (glossary.rank first) (glossary.rank second) := by
  rw [rank_eq, rank_eq, rank_eq, values_append, List.map_append, foldr_max_append]

theorem rank_cons (fragment : Fragment) (text : Plain) :
    glossary.rank (fragment :: text) = max (glossary.rank [fragment]) (glossary.rank text) :=
  glossary.rank_append [fragment] text

theorem rank_nil : glossary.rank [] = 0 := by
  rw [rank_eq]
  rfl

theorem rank_literal (text : List Char) (unmarked : '$' ∉ text) :
    glossary.rank [.literal text unmarked] = 0 := by
  rw [rank_eq]
  rfl

theorem rank_undefined {name : Name} (undefined : glossary.lookup name = none) :
    glossary.rank [.reference name] = 0 := by
  rw [rank_eq]
  simp [values, references, Fragment.name?, undefined]

theorem rank_defined {name : Name} {value : Plain} (found : glossary.lookup name = some value) :
    glossary.rank [.reference name] = glossary.rank value + 1 := by
  rw [rank_eq]
  simp [values, references, Fragment.name?, found]

theorem rank_substituteFragment (fragment : Fragment) :
    glossary.rank (glossary.substituteFragment fragment) = glossary.rank [fragment] - 1 := by
  cases fragment with
  | literal text unmarked =>
    rw [substituteFragment, rank_literal]
  | reference name =>
    cases found : glossary.lookup name with
    | none =>
      rw [substituteFragment, found, Option.getD_none, rank_undefined _ found]
    | some value =>
      rw [substituteFragment, found, Option.getD_some, rank_defined _ found, Nat.add_sub_cancel]

/-- A replacement takes one from the rank, unless the rank is zero. -/
theorem rank_substitute (text : Plain) :
    glossary.rank (glossary.substitute text) = glossary.rank text - 1 := by
  induction text with
  | nil => rw [substitute, List.flatMap_nil, rank_nil]
  | cons fragment text inductionHypothesis =>
    rw [substitute, List.flatMap_cons, rank_append, rank_substituteFragment, ← substitute,
      inductionHypothesis, glossary.rank_cons fragment text]
    omega

theorem substituteFragment_of_rank_eq_zero {fragment : Fragment}
    (settled : glossary.rank [fragment] = 0) :
    glossary.substituteFragment fragment = [fragment] ∧
      glossary.expandFragment fragment = fragment.write := by
  cases fragment with
  | literal text unmarked => exact ⟨rfl, rfl⟩
  | reference name =>
    cases found : glossary.lookup name with
    | none => simp [substituteFragment, expandFragment, found, Fragment.write]
    | some value =>
      rw [rank_defined _ found] at settled
      cases settled

/-- A plain template of rank zero refers to no defined name, so there is nothing to replace in it.
-/
theorem substitute_of_rank_eq_zero {text : Plain} (settled : glossary.rank text = 0) :
    glossary.substitute text = text ∧ glossary.expand text = write text := by
  induction text with
  | nil =>
    rw [expand_eq]
    exact ⟨rfl, rfl⟩
  | cons fragment text inductionHypothesis =>
    rw [glossary.rank_cons fragment text] at settled
    have firstSettled : glossary.rank [fragment] = 0 := by omega
    have first := glossary.substituteFragment_of_rank_eq_zero firstSettled
    have rest := inductionHypothesis (by omega)
    constructor
    · rw [substitute, List.flatMap_cons, first.1, ← substitute, rest.1, List.singleton_append]
    · rw [expand_cons, first.2, rest.2, write, write, List.flatMap_cons]

end Glossary

end PromptTree.Template
