import PromptTree.Value.Display
import PromptTree.Value.Json

/-!
Scopes: names with texts, each name once, in the order in which the names were first written. Main
statements: what a written scope holds (`get?_write`) and in which order (`names_write`).
-/

namespace PromptTree

/-- Names with texts, each name once. -/
structure Scope where
  entries : List (String × String)
  nodup : (entries.map Prod.fst).Nodup
deriving DecidableEq

namespace Scope

/-- Gives a name a text: in the name's place if it has one, else at the end. -/
def writeEntries (name text : String) : List (String × String) → List (String × String)
  | [] => [(name, text)]
  | (n, t) :: rest => if n = name then (name, text) :: rest else (n, t) :: writeEntries name text rest

theorem map_fst_writeEntries (name text : String) (entries : List (String × String)) :
    (writeEntries name text entries).map Prod.fst =
      if name ∈ entries.map Prod.fst then entries.map Prod.fst
      else entries.map Prod.fst ++ [name] := by
  induction entries with
  | nil => simp [writeEntries]
  | cons e rest ih =>
    obtain ⟨n, t⟩ := e
    by_cases h : n = name
    · simp [writeEntries, h]
    · have hn : ¬ name = n := fun hn => h hn.symm
      simp only [writeEntries, h, if_false, List.map_cons, ih, List.mem_cons, hn, false_or]
      split <;> simp

def empty : Scope := ⟨[], by simp⟩

instance : Inhabited Scope := ⟨empty⟩

/-- Gives a name a text: in the name's place if it has one, else at the end. -/
def write (scope : Scope) (name text : String) : Scope :=
  ⟨writeEntries name text scope.entries, by
    rw [map_fst_writeEntries]
    split
    · exact scope.nodup
    · next h =>
      rw [List.nodup_append]
      refine ⟨scope.nodup, by simp, fun a ha b hb => ?_⟩
      simp only [List.mem_singleton] at hb
      rintro rfl
      exact h (hb ▸ ha)⟩

def get? (scope : Scope) (name : String) : Option String :=
  scope.entries.lookup name

def names (scope : Scope) : List String :=
  scope.entries.map Prod.fst

def has (scope : Scope) (name : String) : Bool :=
  (scope.get? name).isSome

def writeAll (scope : Scope) (pairs : List (String × String)) : Scope :=
  pairs.foldl (fun scope (name, text) => scope.write name text) scope

/-- The scope that holds the pairs, written one after the other. -/
def ofPairs (pairs : List (String × String)) : Scope :=
  empty.writeAll pairs

@[ext] theorem ext {a b : Scope} (h : a.entries = b.entries) : a = b := by
  cases a
  cases b
  simp_all

@[simp] theorem entries_write (scope : Scope) (name text : String) :
    (scope.write name text).entries = writeEntries name text scope.entries := rfl

theorem names_write (scope : Scope) (name text : String) :
    (scope.write name text).names =
      if name ∈ scope.names then scope.names else scope.names ++ [name] :=
  map_fst_writeEntries name text scope.entries

theorem lookup_writeEntries (name text other : String) (entries : List (String × String)) :
    (writeEntries name text entries).lookup other =
      if other = name then some text else entries.lookup other := by
  induction entries with
  | nil =>
    by_cases h : other = name
    · simp [writeEntries, h]
    · have hb : (other == name) = false := by simpa using h
      simp [writeEntries, List.lookup_cons, h, hb]
  | cons e rest ih =>
    obtain ⟨n, t⟩ := e
    by_cases h : n = name
    · by_cases ho : other = name
      · simp [writeEntries, h, ho]
      · have hb : (other == name) = false := by simpa using ho
        simp [writeEntries, List.lookup_cons, h, ho, hb]
    · by_cases ho : other = n
      · have : other ≠ name := ho ▸ h
        simp_all [writeEntries]
      · have hb : (other == n) = false := by simpa using ho
        simp [writeEntries, List.lookup_cons, h, hb, ih]

@[simp] theorem get?_write (scope : Scope) (name text other : String) :
    (scope.write name text).get? other = if other = name then some text else scope.get? other :=
  lookup_writeEntries name text other scope.entries

end Scope

/-- A value has no text: it holds a date, bytes or a set inside a list or map, or as a whole. -/
inductive TextError where
  | noText
deriving DecidableEq, Repr

namespace Value

/-- The text that a value has in a scope: itself if it is a text, nothing if it is absent, a word or a
number as it is read, and JSON for everything else. -/
def toText : Value → Except TextError String
  | null => .ok ""
  | bool b => .ok (if b then "true" else "false")
  | text s => .ok s
  | int n => .ok (toString n)
  | float x => .ok x.text
  | v => match v.toJson? Json.plain with
    | some s => .ok s
    | none => .error .noText

end Value

namespace Scope

def toValues (scope : Scope) : Entries :=
  scope.entries.map fun (name, text) => (.text name, .text text)

/-- Writes the entries of a map, keys and values as text, over a scope. -/
def merge (scope : Scope) : Entries → Except TextError Scope
  | [] => .ok scope
  | (key, value) :: rest => do
    let text ← value.toText
    (scope.write key.shown text).merge rest

def ofValues (entries : Entries) : Except TextError Scope :=
  empty.merge entries

def toJson (scope : Scope) : String :=
  ((Value.map scope.toValues).toJson? Json.plain).getD ""

end Scope

end PromptTree
