import Mathlib.Data.Finset.Card
import PromptTree.Proofs.Workflow.Items

/-!
The places of items in a record. An unnamed item goes by the number of entries before it, and a name
that comes again makes no new entry, so a place could be taken twice. It is not: a place is the index
of its entry (`numbered_fill`), so no later place is equal to it. Main statement: at every depth the
entries of a record are as many as its unnamed items and its names, and each has its place for good
(`record_places_fresh`).
-/

namespace PromptTree

def ItemKey.place? : ItemKey → Option Nat
  | .name _ => none
  | .position place => some place

/-- How many entries items make: one for each that is unnamed, and one for each name. -/
def entryCount (names : List (Option String)) : Nat :=
  names.countP (fun name => (usedName? name).isNone) + (names.filterMap usedName?).toFinset.card

theorem entryCount_concat_of_unnamed {name : Option String} (unnamed : usedName? name = none)
    (names : List (Option String)) : entryCount (names ++ [name]) = entryCount names + 1 := by
  simp only [entryCount, List.countP_append, List.countP_singleton, List.filterMap_append,
    List.filterMap_cons_none unnamed, List.filterMap_nil, List.append_nil, unnamed, Option.isNone_none,
    if_true]
  omega

theorem entryCount_concat_of_named {name : Option String} {used : String}
    (named : usedName? name = some used) (names : List (Option String)) :
    entryCount (names ++ [name]) =
      if used ∈ names.filterMap usedName? then entryCount names else entryCount names + 1 := by
  have distinct : (names.filterMap usedName? ++ [used]).toFinset =
      insert used (names.filterMap usedName?).toFinset := by
    ext other
    simp
  simp only [entryCount, List.countP_append, List.countP_singleton, List.filterMap_append,
    List.filterMap_cons_some named, List.filterMap_nil, named, Option.isNone_some, distinct,
    Bool.false_eq_true, if_false, Nat.add_zero]
  split
  · next present => rw [Finset.card_insert_of_mem (List.mem_toFinset.mpr present)]
  · next new =>
    rw [Finset.card_insert_of_notMem (mt List.mem_toFinset.mp new)]
    omega

namespace Projected

variable {key other : ItemKey} {value : Projected} {entries : List (ItemKey × Projected)}
  {items : List (Option String × Projected)}

/-! ### Insertion -/

theorem map_fst_insertItem (key : ItemKey) (value : Projected) (entries : List (ItemKey × Projected)) :
    (insertItem key value entries).map Prod.fst =
      if key ∈ entries.map Prod.fst then entries.map Prod.fst
      else entries.map Prod.fst ++ [key] := by
  induction entries with
  | nil => rfl
  | cons entry entries inductionHypothesis =>
    rw [insertItem]
    by_cases same : entry.1 = key
    · rw [if_pos same, if_pos (by simp [same])]
      rfl
    · rw [if_neg same, List.map_cons, inductionHypothesis, List.map_cons]
      simp only [List.mem_cons, Ne.symm same, false_or]
      split <;> rfl

theorem mem_insertItem_self (key : ItemKey) (value : Projected)
    (entries : List (ItemKey × Projected)) : (key, value) ∈ insertItem key value entries := by
  induction entries with
  | nil => exact List.mem_cons_self
  | cons entry entries inductionHypothesis =>
    rw [insertItem]
    split
    · next same => exact same ▸ List.mem_cons_self
    · exact List.mem_cons_of_mem _ inductionHypothesis

/-- An insertion under another key leaves an entry where it is. -/
theorem getElem?_insertItem_of_ne {i : Nat} {old : Projected} (different : other ≠ key)
    (stands : entries[i]? = some (other, old)) (value : Projected) :
    (insertItem key value entries)[i]? = some (other, old) := by
  induction entries generalizing i with
  | nil => cases stands
  | cons entry entries inductionHypothesis =>
    rw [insertItem]
    cases i with
    | zero =>
      cases stands
      rw [if_neg different]
      rfl
    | succ i =>
      split
      · exact stands
      · exact inductionHypothesis stands

theorem nodup_insertItem (distinct : (entries.map Prod.fst).Nodup) :
    ((insertItem key value entries).map Prod.fst).Nodup := by
  rw [map_fst_insertItem]
  split
  · exact distinct
  · next new => exact List.concat_eq_append ▸ distinct.concat new

/-! ### Places -/

def Numbered (entries : List (ItemKey × Projected)) : Prop :=
  ∀ (i place : Nat), (entries.map Prod.fst)[i]? = some (.position place) → place = i

theorem Numbered.not_mem (numbered : Numbered entries) :
    .position entries.length ∉ entries.map Prod.fst := by
  intro isKey
  obtain ⟨i, stands⟩ := List.mem_iff_getElem?.mp isKey
  obtain rfl := numbered i _ stands
  rw [List.getElem?_eq_none (by rw [List.length_map])] at stands
  cases stands

theorem Numbered.insertItem (numbered : Numbered entries) (name : Option String)
    (value : Projected) : Numbered (insertItem (.after entries.length name) value entries) := by
  intro i place stands
  rw [map_fst_insertItem] at stands
  split at stands
  · exact numbered i place stands
  · rw [List.getElem?_append, List.length_map] at stands
    split at stands
    · exact numbered i place stands
    · next last =>
      obtain ⟨atEnd, isKey⟩ := List.getElem?_eq_some_iff.mp stands
      rw [List.length_singleton] at atEnd
      rw [List.getElem_singleton, ItemKey.after] at isKey
      split at isKey
      · cases isKey
      · cases isKey
        omega

theorem Numbered.fill (numbered : Numbered entries) (items : List (Option String × Projected)) :
    Numbered (fill entries items) := by
  induction items generalizing entries with
  | nil => exact numbered
  | cons item items inductionHypothesis => exact inductionHypothesis (numbered.insertItem _ _)

theorem numbered_fill (items : List (Option String × Projected)) : Numbered (fill [] items) :=
  Numbered.fill (by rintro i place ⟨⟩) items

/-- Places that are indices increase. -/
theorem Numbered.increasing (numbered : Numbered entries) :
    (entries.filterMap fun entry => entry.1.place?).Pairwise (· < ·) := by
  rw [List.pairwise_filterMap, List.pairwise_iff_getElem]
  intro i j isIndex isLater before place isPlace later isLaterPlace
  have placeOf : ∀ (k : Nat) (isIndex : k < entries.length) (place : Nat),
      entries[k].1.place? = some place → place = k := by
    intro k isIndex place isPlace
    apply numbered
    rw [List.getElem?_map, List.getElem?_eq_getElem isIndex, Option.map_some]
    cases isKey : entries[k].1 with
    | name name =>
      rw [isKey] at isPlace
      cases isPlace
    | position own =>
      rw [isKey] at isPlace
      cases isPlace
      rfl
  rw [placeOf i isIndex place isPlace, placeOf j isLater later isLaterPlace]
  exact before

/-! ### Filled records -/

theorem fill_append (entries : List (ItemKey × Projected))
    (items more : List (Option String × Projected)) :
    fill entries (items ++ more) = fill (fill entries items) more := by
  induction items generalizing entries with
  | nil => rfl
  | cons item items inductionHypothesis => exact inductionHypothesis _

theorem prefix_map_fst_fill (entries : List (ItemKey × Projected))
    (items : List (Option String × Projected)) :
    entries.map Prod.fst <+: (fill entries items).map Prod.fst := by
  induction items generalizing entries with
  | nil => exact List.prefix_rfl
  | cons item items inductionHypothesis =>
    refine List.IsPrefix.trans ?_ (inductionHypothesis _)
    rw [map_fst_insertItem]
    split
    · exact List.prefix_rfl
    · exact List.prefix_append _ _

theorem nodup_fill (items : List (Option String × Projected)) :
    ((fill [] items).map Prod.fst).Nodup := by
  induction items using List.reverseRecOn with
  | nil => exact List.nodup_nil
  | append_singleton items item inductionHypothesis =>
    rw [fill_append]
    exact nodup_insertItem inductionHypothesis

theorem name_mem_fill_iff {name : String} :
    .name name ∈ (fill [] items).map Prod.fst ↔ name ∈ (items.map Prod.fst).filterMap usedName? := by
  induction items using List.reverseRecOn with
  | nil => simp [fill]
  | append_singleton items item inductionHypothesis =>
    rw [fill_append, fill, fill, map_fst_insertItem, List.map_append, List.filterMap_append,
      List.mem_append, ← inductionHypothesis, List.map_singleton, List.filterMap_cons, ItemKey.after]
    cases usedName? item.1 <;> split <;> grind

theorem length_fill (items : List (Option String × Projected)) :
    (fill [] items).length = entryCount (items.map Prod.fst) := by
  induction items using List.reverseRecOn with
  | nil => rfl
  | append_singleton items item inductionHypothesis =>
    rw [fill_append, fill, fill, List.map_append, List.map_singleton, ← List.length_map Prod.fst,
      map_fst_insertItem, ItemKey.after]
    cases used : usedName? item.1 with
    | none =>
      rw [entryCount_concat_of_unnamed used, if_neg (numbered_fill items).not_mem, List.length_append,
        List.length_map, inductionHypothesis, List.length_singleton]
    | some name =>
      simp only [entryCount_concat_of_named used, name_mem_fill_iff]
      split
      · rw [List.length_map, inductionHypothesis]
      · rw [List.length_append, List.length_map, inductionHypothesis, List.length_singleton]

/-- An entry with a place stays as it is, whatever is added. -/
theorem getElem?_fill_of_place {place : Nat} (numbered : Numbered entries)
    (stands : entries[place]? = some (.position place, value))
    (items : List (Option String × Projected)) :
    (fill entries items)[place]? = some (.position place, value) := by
  induction items generalizing entries with
  | nil => exact stands
  | cons item items inductionHypothesis =>
    apply inductionHypothesis (numbered.insertItem _ _)
    apply getElem?_insertItem_of_ne _ stands
    intro same
    have new : ItemKey.after entries.length item.1 ∉ entries.map Prod.fst := by
      rw [ItemKey.after] at same ⊢
      split at same
      · cases same
      · exact numbered.not_mem
    apply new
    rw [← same]
    exact List.mem_map_of_mem (List.mem_of_getElem? stands)

/-- An entry with a name stays as it is until the name comes again. -/
theorem mem_fill_of_name {name : String} (isEntry : (.name name, value) ∈ entries)
    (last : name ∉ (items.map Prod.fst).filterMap usedName?) :
    (.name name, value) ∈ fill entries items := by
  induction items generalizing entries with
  | nil => exact isEntry
  | cons item items inductionHypothesis =>
    rw [List.map_cons, List.filterMap_cons] at last
    obtain ⟨i, stands⟩ := List.mem_iff_getElem?.mp isEntry
    have different : ItemKey.name name ≠ .after entries.length item.1 := by
      rw [ItemKey.after]
      cases used : usedName? item.1 with
      | none => rintro ⟨⟩
      | some other =>
        rw [used, List.mem_cons, not_or] at last
        exact fun same => last.1 (ItemKey.name.inj same)
    apply inductionHypothesis (List.mem_of_getElem? (getElem?_insertItem_of_ne different stands _))
    cases used : usedName? item.1 with
    | none =>
      rw [used] at last
      exact last
    | some other =>
      rw [used, List.mem_cons, not_or] at last
      exact last.2

/-- How the items of a record lie in it. -/
structure Laid (items : List (Option String × Projected)) (entries : List (ItemKey × Projected)) :
    Prop where
  /-- There is an entry for each unnamed item and for each name. -/
  count : entries.length = entryCount (items.map Prod.fst)
  distinct : (entries.map Prod.fst).Nodup
  /-- An unnamed item has the number of the entries before it as its key, and keeps it. -/
  unnamed : ∀ {before name value behind}, items = before ++ (name, value) :: behind →
    usedName? name = none →
    entries[entryCount (before.map Prod.fst)]? =
      some (.position (entryCount (before.map Prod.fst)), value)
  /-- A name stands where it came first, with what came last under it. -/
  named : ∀ {used before first value after front last final behind},
    items = before ++ (first, value) :: after → usedName? first = some used →
    used ∉ (before.map Prod.fst).filterMap usedName? →
    items = front ++ (last, final) :: behind → usedName? last = some used →
    used ∉ (behind.map Prod.fst).filterMap usedName? →
    entries[entryCount (before.map Prod.fst)]? = some (.name used, final)
  increasing : (entries.filterMap fun entry => entry.1.place?).Pairwise (· < ·)

section

variable {before after front behind : List (Option String × Projected)} {name : Option String}
  {used : String} {value : Projected}

theorem getElem?_fill_of_unnamed (unnamed : usedName? name = none) :
    (fill [] (before ++ (name, value) :: behind))[entryCount (before.map Prod.fst)]? =
      some (.position (entryCount (before.map Prod.fst)), value) := by
  have stands : (insertItem (.after (fill [] before).length name) value (fill [] before))[
      (fill [] before).length]? = some (.position (fill [] before).length, value) := by
    rw [ItemKey.after, unnamed, insertItem_of_new (numbered_fill before).not_mem,
      List.getElem?_concat_length]
  rw [← length_fill, fill_append]
  exact getElem?_fill_of_place ((numbered_fill before).insertItem _ _) stands behind

theorem getElem?_keys_fill_of_first (isUsed : usedName? name = some used)
    (new : used ∉ (before.map Prod.fst).filterMap usedName?) :
    ((fill [] (before ++ (name, value) :: after)).map Prod.fst)[
      entryCount (before.map Prod.fst)]? = some (.name used) := by
  have stands : ((insertItem (.after (fill [] before).length name) value
      (fill [] before)).map Prod.fst)[(fill [] before).length]? = some (.name used) := by
    rw [← name_mem_fill_iff] at new
    rw [ItemKey.after, isUsed, insertItem_of_new new, List.map_append, List.map_singleton,
      ← List.length_map Prod.fst, List.getElem?_concat_length]
  rw [← length_fill, fill_append]
  obtain ⟨inBounds, isKey⟩ := List.getElem?_eq_some_iff.mp stands
  exact (List.prefix_iff_getElem?.mp (prefix_map_fst_fill _ after) _ inBounds).trans
    (congrArg some isKey)

theorem mem_fill_of_last (isUsed : usedName? name = some used)
    (noneBehind : used ∉ (behind.map Prod.fst).filterMap usedName?) :
    (.name used, value) ∈ fill [] (front ++ (name, value) :: behind) := by
  rw [fill_append]
  apply mem_fill_of_name _ noneBehind
  rw [ItemKey.after, isUsed]
  exact mem_insertItem_self _ _ _

end

theorem laid_fill (items : List (Option String × Projected)) : Laid items (fill [] items) where
  count := length_fill items
  distinct := nodup_fill items
  unnamed := by
    rintro before name value behind rfl unnamed
    exact getElem?_fill_of_unnamed unnamed
  named := by
    intro used before first value after front last final behind fromFirst isFirst new fromLast isLast
      noneBehind
    have key : ((fill [] items).map Prod.fst)[entryCount (before.map Prod.fst)]? =
        some (.name used) := fromFirst ▸ getElem?_keys_fill_of_first isFirst new
    have isEntry : (.name used, final) ∈ fill [] items :=
      fromLast ▸ mem_fill_of_last isLast noneBehind
    obtain ⟨j, stands⟩ := List.mem_iff_getElem?.mp isEntry
    have keyToo : ((fill [] items).map Prod.fst)[j]? = some (.name used) := by
      rw [List.getElem?_map, stands]
      rfl
    have same : j = entryCount (before.map Prod.fst) := by
      have inBounds := (List.getElem?_eq_some_iff.mp keyToo).1
      exact (List.getElem?_inj inBounds (nodup_fill items)).mp (keyToo.trans key.symm)
    rwa [← same]
  increasing := (numbered_fill items).increasing

end Projected

end PromptTree

namespace PromptTree.Workflow

variable {β : Type} {engine : Engine β} {scope : Scope}

mutual

/-- What a projection of a scope comes to, with the items laid out at every depth. -/
inductive Forms (engine : Engine β) (scope : Scope) :
    Projection → Session β → Projected → Session β → Prop where
  | leaf {template text s t} :
    result (Run.resolve engine (template.getD "") scope) s = (.ok text, t) →
    Forms engine scope (.leaf template) s (.text text) t
  | record {items s values t entries} :
    FormsAll engine scope (items.map Prod.snd) s values t →
    Projected.Laid ((items.map Prod.fst).zip values) entries →
    Forms engine scope (.record items) s (.record entries) t

/-- What projections of a scope come to one after the other. -/
inductive FormsAll (engine : Engine β) (scope : Scope) :
    List Projection → Session β → List Projected → Session β → Prop where
  | nil {s} : FormsAll engine scope [] s [] s
  | cons {projection projections s value t values u} :
    Forms engine scope projection s value t →
    FormsAll engine scope projections t values u →
    FormsAll engine scope (projection :: projections) s (value :: values) u

end

mutual

theorem forms_of_project : (projection : Projection) → {s t : Session β} → {value : Projected} →
    result (project engine scope projection) s = (.ok value, t) →
      Forms engine scope projection s value t
  | .leaf template, s, t, value, ended => by
    rw [project, result_bind_eq_ok_iff] at ended
    obtain ⟨text, _, resolved, ⟨⟩⟩ := ended
    exact .leaf resolved
  | .record items, s, t, value, ended => by
    rw [project, result_bind_eq_ok_iff] at ended
    obtain ⟨entries, _, filled, ⟨⟩⟩ := ended
    obtain ⟨values, yields, rfl⟩ := projectItems_eq_ok_iff.mp filled
    exact .record (formsAll_of_yields items yields) (Projected.laid_fill _)
termination_by structural projection => projection

theorem formsAll_of_yields : (items : List (Option String × Projection)) → {s t : Session β} →
    {values : List Projected} → Yields engine scope (items.map Prod.snd) s values t →
      FormsAll engine scope (items.map Prod.snd) s values t
  | [], _, _, _, .nil => .nil
  | (_, projection) :: items, _, _, _, .cons projected yields =>
    .cons (forms_of_project projection projected) (formsAll_of_yields items yields)
termination_by structural items => items

end

/-- Unnamed items have places that no other item takes, in the records inside a record as well. -/
theorem record_places_fresh {items : List (Option String × Projection)} {s t : Session β}
    {returned : Projected}
    (ended : result (project engine scope (.record items)) s = (.ok returned, t)) :
    ∃ values entries, returned = .record entries ∧
      FormsAll engine scope (items.map Prod.snd) s values t ∧
      values.length = items.length ∧
      Projected.Laid ((items.map Prod.fst).zip values) entries := by
  rw [project, result_bind_eq_ok_iff] at ended
  obtain ⟨entries, _, filled, ⟨⟩⟩ := ended
  obtain ⟨values, yields, rfl⟩ := projectItems_eq_ok_iff.mp filled
  refine ⟨values, _, rfl, formsAll_of_yields items yields, ?_, Projected.laid_fill _⟩
  rw [yields.length_eq, List.length_map]

/-- Items with a name that comes twice, before and behind unnamed ones, of which one is a record. -/
def listedItems : List (Option String × Projection) :=
  [(some "city", .leaf (some "York")), (none, .leaf (some "first")), (some "city", .leaf (some "Bath")),
    (some "", .record [(none, .leaf (some "inner"))]), (some "1", .leaf none)]

theorem record_places_fresh_listed :
    ∃ returned t, result (project deafEngine .empty (.record listedItems)) (.start ()) =
        (.ok returned, t) ∧
      ∃ values entries, returned = .record entries ∧
        Projected.Laid ((listedItems.map Prod.fst).zip values) entries ∧
        entries.map Prod.fst = [.name "city", .position 1, .position 2, .name "1"] ∧
        entries[0]?.map (·.2.scopeText) = some "Bath" ∧
        entries[2]?.map (·.2.scopeText) = some "\x7b\"0\": \"inner\"\x7d" := by
  have ended : result (project deafEngine .empty (.record listedItems)) (.start ()) =
      (.ok (.record [(.name "city", .text "Bath"), (.position 1, .text "first"),
        (.position 2, .record [(.position 0, .text "inner")]), (.name "1", .text "")]),
        .start ()) := by
    cbv
  obtain ⟨values, entries, isRecord, _, _, laid⟩ := record_places_fresh ended
  refine ⟨_, _, ended, values, entries, isRecord, laid, ?_⟩
  cases isRecord
  decide

end PromptTree.Workflow
