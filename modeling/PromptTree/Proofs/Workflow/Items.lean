import PromptTree.Proofs.Scope.Names
import PromptTree.Proofs.Value.Wordless
import PromptTree.Proofs.Workflow.TextSafety

/-!
The items of a record. Each goes by its name, or by the number of entries before it; so as long as
no name is used twice, a record has one entry for each item (`fill_of_new`). In the scope that the
record makes for the next step the keys are texts, and a number may meet a name there. Main
statement: the scope has one entry for each item unless an item has the place of an unnamed one as
its name (`scope_of_project_record`).
-/

namespace PromptTree

/-- The name by which an item goes; an empty one is none. -/
def usedName? (name : Option String) : Option String :=
  name.filter (· ≠ "")

def ItemKey.after (before : Nat) (name : Option String) : ItemKey :=
  match usedName? name with
  | some name => .name name
  | none => .position before

def itemKeys (before : Nat) : List (Option String) → List ItemKey
  | [] => []
  | name :: names => .after before name :: itemKeys (before + 1) names

@[simp] theorem length_itemKeys (before : Nat) (names : List (Option String)) :
    (itemKeys before names).length = names.length := by
  induction names generalizing before with
  | nil => rfl
  | cons name names inductionHypothesis =>
    rw [itemKeys, List.length_cons, List.length_cons, inductionHypothesis]

theorem name_mem_itemKeys {before : Nat} {names : List (Option String)} {name : String} :
    .name name ∈ itemKeys before names ↔ name ∈ names.filterMap usedName? := by
  induction names generalizing before with
  | nil => simp [itemKeys]
  | cons first names inductionHypothesis =>
    rw [itemKeys, List.mem_cons, inductionHypothesis, ItemKey.after, List.filterMap_cons]
    cases usedName? first <;> simp

theorem position_mem_itemKeys {before place : Nat} {names : List (Option String)} :
    .position place ∈ itemKeys before names ↔
      ∃ i name, place = before + i ∧ names[i]? = some name ∧ usedName? name = none := by
  induction names generalizing before with
  | nil => simp [itemKeys]
  | cons first names inductionHypothesis =>
    rw [itemKeys, List.mem_cons, inductionHypothesis]
    constructor
    · rintro (isFirst | ⟨i, name, isPlace, isName, unnamed⟩)
      · cases used : usedName? first with
        | none =>
          rw [ItemKey.after, used] at isFirst
          cases isFirst
          exact ⟨0, first, rfl, rfl, used⟩
        | some name =>
          rw [ItemKey.after, used] at isFirst
          cases isFirst
      · exact ⟨i + 1, name, by omega, isName, unnamed⟩
    · rintro ⟨_ | i, name, isPlace, isName, unnamed⟩
      · cases isName
        left
        rw [ItemKey.after, unnamed, isPlace, Nat.add_zero]
      · exact .inr ⟨i, name, by omega, isName, unnamed⟩

theorem nodup_itemKeys (before : Nat) {names : List (Option String)}
    (distinct : (names.filterMap usedName?).Nodup) : (itemKeys before names).Nodup := by
  induction names generalizing before with
  | nil => exact List.nodup_nil
  | cons first names inductionHypothesis =>
    rw [itemKeys, List.nodup_cons, ItemKey.after]
    cases used : usedName? first with
    | none =>
      rw [List.filterMap_cons_none used] at distinct
      refine ⟨?_, inductionHypothesis _ distinct⟩
      intro later
      obtain ⟨i, _, isPlace, _⟩ := position_mem_itemKeys.mp later
      omega
    | some name =>
      rw [List.filterMap_cons_some used, List.nodup_cons] at distinct
      exact ⟨fun later => distinct.1 (name_mem_itemKeys.mp later), inductionHypothesis _ distinct.2⟩

/-! ### Keys as texts -/

def Clashes (names : List (Option String)) : Prop :=
  ∃ (place : Nat) (name : Option String), names[place]? = some name ∧ usedName? name = none ∧
    toString place ∈ names.filterMap usedName?

theorem clashes_iff {names : List (Option String)} :
    Clashes names ↔ ∃ place : Nat, ItemKey.position place ∈ itemKeys 0 names ∧
      ItemKey.name (toString place) ∈ itemKeys 0 names := by
  simp only [Clashes, position_mem_itemKeys, name_mem_itemKeys, Nat.zero_add]
  constructor
  · rintro ⟨place, name, isName, unnamed, isUsed⟩
    exact ⟨place, ⟨place, name, rfl, isName, unnamed⟩, isUsed⟩
  · rintro ⟨place, ⟨_, name, rfl, isName, unnamed⟩, isUsed⟩
    exact ⟨place, name, isName, unnamed, isUsed⟩

theorem nodup_text_itemKeys_iff {names : List (Option String)}
    (distinct : (names.filterMap usedName?).Nodup) :
    ((itemKeys 0 names).map ItemKey.text).Nodup ↔ ¬ Clashes names := by
  rw [clashes_iff]
  constructor
  · rintro nodup ⟨_, isPosition, isName⟩
    cases List.inj_on_of_nodup_map nodup isPosition isName rfl
  · intro noClash
    apply (nodup_itemKeys 0 distinct).map_on
    intro first isFirst second isSecond same
    cases first with
    | name name =>
      cases second with
      | name other => exact congrArg ItemKey.name same
      | position place =>
        obtain rfl : name = toString place := same
        exact (noClash ⟨place, isSecond, isFirst⟩).elim
    | position place =>
      cases second with
      | name name =>
        obtain rfl : toString place = name := same
        exact (noClash ⟨place, isFirst, isSecond⟩).elim
      | position other => exact congrArg ItemKey.position (Nat.repr_inj.mp same)

/-! ### Filling a record -/

namespace Projected

def fill (before : List (ItemKey × Projected)) :
    List (Option String × Projected) → List (ItemKey × Projected)
  | [] => before
  | (name, value) :: items => fill (insertItem (.after before.length name) value before) items

theorem insertItem_of_new {key : ItemKey} {before : List (ItemKey × Projected)}
    (new : key ∉ before.map Prod.fst) (value : Projected) :
    insertItem key value before = before ++ [(key, value)] := by
  induction before with
  | nil => rfl
  | cons entry before inductionHypothesis =>
    rw [List.map_cons, List.mem_cons, not_or] at new
    rw [insertItem, if_neg (Ne.symm new.1), inductionHypothesis new.2, List.cons_append]

/-- Keys that are new and distinct are all kept. -/
theorem fill_of_new {before : List (ItemKey × Projected)} {names : List (Option String)}
    {values : List Projected}
    (new : (before.map Prod.fst ++ itemKeys before.length names).Nodup) :
    fill before (names.zip values) = before ++ (itemKeys before.length names).zip values := by
  induction names generalizing before values with
  | nil => simp [fill, itemKeys]
  | cons name names inductionHypothesis =>
    cases values with
    | nil => simp [fill]
    | cons value values =>
      rw [itemKeys] at new
      have isNew : ItemKey.after before.length name ∉ before.map Prod.fst := fun isKey =>
        (List.nodup_append.mp new).2.2 _ isKey _ List.mem_cons_self rfl
      rw [List.zip_cons_cons, fill, insertItem_of_new isNew, inductionHypothesis]
      · rw [List.length_append, List.length_singleton, itemKeys, List.zip_cons_cons,
          List.append_assoc, List.singleton_append]
      · rwa [List.length_append, List.length_singleton, List.map_append, List.map_cons,
          List.map_nil, List.append_assoc, List.singleton_append]

/-! ### The texts of items -/

mutual

theorem not_wordless_toValue : (p : Projected) → ¬ p.toValue.Wordless
  | .text t => by rintro ⟨⟩
  | .record items => by
    rw [toValue, Value.wordless_map_iff]
    rintro ⟨entry, isEntry, wordless⟩
    obtain ⟨hasKey, hasText⟩ := not_wordless_itemValues items entry isEntry
    exact wordless.elim hasKey hasText
termination_by structural p => p

theorem not_wordless_itemValues : (items : List (ItemKey × Projected)) →
    ∀ entry ∈ itemValues items, Json.keyText? entry.1 ≠ none ∧ ¬ entry.2.Wordless
  | [] => by
    intro entry isEntry
    cases isEntry
  | (key, p) :: items => by
    intro entry isEntry
    rcases List.mem_cons.mp isEntry with rfl | later
    · exact ⟨by cases key <;> rintro ⟨⟩, not_wordless_toValue p⟩
    · exact not_wordless_itemValues items entry later
termination_by structural items => items

end

/-- What a step returns has a text, and this is the one that it gets in a scope. -/
theorem toText_toValue (p : Projected) : p.toValue.toText = .ok p.scopeText := by
  cases p with
  | text t => rfl
  | record items =>
    have notWordless := not_wordless_toValue (.record items)
    rw [← Value.write?_eq_none_iff Json.plain 0] at notWordless
    obtain ⟨text, written⟩ := Option.ne_none_iff_exists'.mp notWordless
    simp only [toValue] at written
    simp only [scopeText, toValue, Value.toText, Value.toJson?, written, Option.getD_some]

def scopePairs (items : List (ItemKey × Projected)) : List (String × String) :=
  items.map fun (key, p) => (key.text, p.scopeText)

theorem shown_toValue (key : ItemKey) : key.toValue.shown = key.text := by
  cases key with
  | name name => rfl
  | position index => rfl

theorem merge_itemValues (scope : Scope) (items : List (ItemKey × Projected)) :
    scope.merge (itemValues items) = .ok (scope.writeAll (scopePairs items)) := by
  induction items generalizing scope with
  | nil => rfl
  | cons item items inductionHypothesis =>
    obtain ⟨key, p⟩ := item
    rw [itemValues, Scope.merge, toText_toValue, shown_toValue]
    exact inductionHypothesis _

end Projected

end PromptTree

namespace PromptTree.Workflow

variable {β : Type}

/-- Projections of one scope come to values one after the other. -/
inductive Yields (engine : Engine β) (scope : Scope) :
    List Projection → Session β → List Projected → Session β → Prop where
  | nil {s} : Yields engine scope [] s [] s
  | cons {projection projections value values s t u} :
    result (project engine scope projection) s = (.ok value, t) →
    Yields engine scope projections t values u →
    Yields engine scope (projection :: projections) s (value :: values) u

variable {engine : Engine β} {scope : Scope}

theorem Yields.length_eq {projections : List Projection} {s t : Session β} {values : List Projected}
    (yields : Yields engine scope projections s values t) : values.length = projections.length := by
  induction yields with
  | nil => rfl
  | cons _ _ inductionHypothesis =>
    rw [List.length_cons, List.length_cons, inductionHypothesis]

theorem projectItems_cons (before : List (ItemKey × Projected)) (name : Option String)
    (projection : Projection) (items : List (Option String × Projection)) :
    projectItems engine scope before ((name, projection) :: items) = (do
      let value ← project engine scope projection
      projectItems engine scope
        (Projected.insertItem (.after before.length name) value before) items) := by
  have sameKey : (match name with
      | some name => if name.isEmpty then ItemKey.position before.length else .name name
      | none => .position before.length) = .after before.length name := by
    cases name with
    | none => rfl
    | some name =>
      by_cases empty : name = ""
      · subst empty
        rfl
      · simp [ItemKey.after, usedName?, Option.filter_some, empty]
  rw [← sameKey]
  rfl

theorem projectItems_eq_ok_iff {items : List (Option String × Projection)}
    {before record : List (ItemKey × Projected)} {s t : Session β} :
    result (projectItems engine scope before items) s = (.ok record, t) ↔
      ∃ values, Yields engine scope (items.map Prod.snd) s values t ∧
        record = Projected.fill before ((items.map Prod.fst).zip values) := by
  induction items generalizing before s with
  | nil =>
    rw [projectItems, result_pure]
    constructor
    · rintro ⟨⟩
      exact ⟨[], .nil, rfl⟩
    · rintro ⟨_, ⟨⟩, rfl⟩
      rfl
  | cons item items inductionHypothesis =>
    obtain ⟨name, projection⟩ := item
    rw [projectItems_cons, result_bind_eq_ok_iff]
    constructor
    · rintro ⟨value, u, projected, rest⟩
      obtain ⟨values, yields, rfl⟩ := inductionHypothesis.mp rest
      exact ⟨value :: values, .cons projected yields, rfl⟩
    · rintro ⟨_, yields, rfl⟩
      cases yields with
      | cons projected yields =>
        exact ⟨_, _, projected, inductionHypothesis.mpr ⟨_, yields, rfl⟩⟩

/-- If no name is used twice, a record makes a scope with the text of each item under the text of
its key, and all of them are kept unless an item has the place of an unnamed one as its name. -/
theorem scope_of_project_record {items : List (Option String × Projection)} {s t : Session β}
    {returned : Projected} (distinct : ((items.map Prod.fst).filterMap usedName?).Nodup)
    (ended : result (project engine scope (.record items)) s = (.ok returned, t)) :
    ∃ values texts entries next,
      Yields engine scope (items.map Prod.snd) s values t ∧
      values.map (·.toValue.toText) = texts.map .ok ∧
      returned.toValue = .map entries ∧ Scope.ofValues entries = .ok next ∧
      returned.toScope? = some next ∧
      let said := ((itemKeys 0 (items.map Prod.fst)).map ItemKey.text).zip texts
      next = .ofPairs said ∧ said.length = items.length ∧
      (next.entries = said ↔ ¬ Clashes (items.map Prod.fst)) ∧
      (next.entries.length < items.length ↔ Clashes (items.map Prod.fst)) := by
  rw [project, result_bind_eq_ok_iff] at ended
  obtain ⟨record, u, filled, isReturned⟩ := ended
  cases isReturned
  obtain ⟨values, yields, rfl⟩ := projectItems_eq_ok_iff.mp filled
  have asMany : values.length = items.length := by
    rw [yields.length_eq, List.length_map]
  have kept : Projected.fill [] ((items.map Prod.fst).zip values) =
      (itemKeys 0 (items.map Prod.fst)).zip values :=
    Projected.fill_of_new (nodup_itemKeys 0 distinct)
  have pairs : Projected.scopePairs ((itemKeys 0 (items.map Prod.fst)).zip values) =
      ((itemKeys 0 (items.map Prod.fst)).map ItemKey.text).zip (values.map (·.scopeText)) :=
    List.zip_map.symm
  rw [kept]
  refine ⟨values, values.map (·.scopeText), _, _, yields, ?_, rfl, Projected.merge_itemValues _ _,
    rfl, ?_⟩
  · rw [List.map_map]
    exact List.map_congr_left fun p _ => p.toText_toValue
  · intro said
    have length : said.length = items.length := by
      rw [List.length_zip, List.length_map, List.length_map, length_itemKeys, List.length_map,
        asMany, Nat.min_self]
    have names : said.map Prod.fst = (itemKeys 0 (items.map Prod.fst)).map ItemKey.text := by
      apply List.map_fst_zip
      rw [List.length_map, List.length_map, length_itemKeys, List.length_map, asMany]
    have noClash := nodup_text_itemKeys_iff distinct
    rw [← names] at noClash
    rw [pairs]
    refine ⟨rfl, length, ?_, ?_⟩
    · rw [← noClash]
      constructor
      · intro all
        exact all ▸ (Scope.ofPairs said).nodup
      · exact Scope.entries_ofPairs
    · rw [← length, ← not_not (a := Clashes _), ← noClash]
      exact Scope.length_ofPairs_lt_iff

/-- Items with and without names. The first is called by the place of the last, which is no clash:
the last one has a name. -/
def titledItems : List (Option String × Projection) :=
  [(some "2", .leaf (some "York")), (some "", .record [(some "1", .leaf none), (none, .leaf none)]),
    (some "place", .leaf (some "a"))]

theorem scope_of_project_record_titled :
    ((titledItems.map Prod.fst).filterMap usedName?).Nodup ∧
      ∃ returned t next,
        result (project deafEngine .empty (.record titledItems)) (.start ()) = (.ok returned, t) ∧
        ¬ Clashes (titledItems.map Prod.fst) ∧ returned.toScope? = some next ∧
        next.entries.length = titledItems.length ∧
        next.entries =
          [("2", "York"), ("1", "\x7b\"1\": \"\", \"1\": \"\"\x7d"), ("place", "a")] := by
  have distinct : ((titledItems.map Prod.fst).filterMap usedName?).Nodup := by decide
  have noClash : ¬ Clashes (titledItems.map Prod.fst) := by
    rw [← nodup_text_itemKeys_iff distinct]
    decide
  have ended : result (project deafEngine .empty (.record titledItems)) (.start ()) =
      (.ok (.record [(.name "2", .text "York"),
        (.position 1, .record [(.name "1", .text ""), (.position 1, .text "")]),
        (.name "place", .text "a")]), .start ()) := by
    cbv
  obtain ⟨_, _, _, next, _, _, _, _, isNext, _, asMany, kept, _⟩ :=
    scope_of_project_record distinct ended
  refine ⟨distinct, _, _, next, ended, noClash, isNext, ?_, ?_⟩
  · rw [kept.mpr noClash]
    exact asMany
  · cases isNext
    decide

/-- Distinct names are not enough: a name may be the place of an unnamed item. -/
theorem not_every_item_kept :
    let items : List (Option String × Projection) :=
      [(some "1", .leaf (some "first")), (none, .leaf (some "second"))]
    ((items.map Prod.fst).filterMap usedName?).Nodup ∧
      ∃ returned t next,
        result (project deafEngine .empty (.record items)) (.start ()) = (.ok returned, t) ∧
        returned.toScope? = some next ∧ next.entries = [("1", "second")] ∧
        next.entries.length ≠ items.length := by
  intro items
  have ended : result (project deafEngine .empty (.record items)) (.start ()) =
      (.ok (.record [(.name "1", .text "first"), (.position 1, .text "second")]), .start ()) := by
    cbv
  exact ⟨by decide, _, _, _, ended, rfl, by decide, by decide⟩

end PromptTree.Workflow
