import PromptTree.Scope

/-!
What steps return: a text, or a record whose items have a name or a place.
-/

namespace PromptTree

/-- The key of an item of a record: its name, or how many items came before it. -/
inductive ItemKey where
  | name (name : String)
  | position (index : Nat)
deriving DecidableEq, Repr

def ItemKey.text : ItemKey → String
  | .name n => n
  | .position index => toString index

def ItemKey.toValue : ItemKey → Value
  | .name n => .text n
  | .position index => .int index

/-- What a step returns. -/
inductive Projected where
  | text (text : String)
  | record (items : List (ItemKey × Projected))
deriving Inhabited

namespace Projected

def ofScope (scope : Scope) : Projected :=
  .record (scope.entries.map fun (n, t) => (.name n, .text t))

def isText : Projected → Bool
  | text _ => true
  | record _ => false

/-- Gives a key its item: in the place of the key if there is one, else at the end. -/
def insertItem (key : ItemKey) (item : Projected) :
    List (ItemKey × Projected) → List (ItemKey × Projected)
  | [] => [(key, item)]
  | (k, p) :: rest => if k = key then (k, item) :: rest else (k, p) :: insertItem key item rest

mutual

def toValue : Projected → Value
  | text t => .text t
  | record items => .map (itemValues items)
termination_by structural p => p

def itemValues : List (ItemKey × Projected) → Entries
  | [] => []
  | (k, p) :: items => (k.toValue, p.toValue) :: itemValues items
termination_by structural items => items

end

/-- The text that an item has in a scope: itself, or a record as JSON. -/
def scopeText : Projected → String
  | text t => t
  | record items => ((record items).toValue.toJson? Json.plain).getD ""

/-- The scope that a record makes for the next step; a text makes none. -/
def toScope? : Projected → Option Scope
  | text _ => none
  | record items => some (.ofPairs (items.map fun (k, p) => (k.text, p.scopeText)))

end Projected

end PromptTree
