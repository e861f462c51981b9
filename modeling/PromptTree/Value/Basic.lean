import PromptTree.Calendar.Moment
import PromptTree.Decimal.Binary64

/-!
Data of any shape, as documents, answers and results hold it. Maps keep the order in which their keys
were first written.
-/

namespace PromptTree

inductive Value where
  | null
  | bool (b : Bool)
  | int (n : Int)
  | float (x : Binary64)
  | text (s : String)
  | list (items : List Value)
  | map (entries : List (Value × Value))
  | date (d : Calendar.Date)
  | moment (m : Calendar.Moment)
  | bytes (content : List UInt8)
  | set (items : List Value)
deriving Inhabited

abbrev Entries := List (Value × Value)

namespace Value

def kindName : Value → String
  | null => "NoneType"
  | bool _ => "bool"
  | int _ => "int"
  | float _ => "float"
  | text _ => "str"
  | list _ => "list"
  | map _ => "dict"
  | date _ => "date"
  | moment _ => "datetime"
  | bytes _ => "bytes"
  | set _ => "set"

def isTruthy : Value → Bool
  | null => false
  | bool b => b
  | int n => n != 0
  | float x => !x.isZero
  | text s => !s.isEmpty
  | list items => !items.isEmpty
  | map entries => !entries.isEmpty
  | date _ => true
  | moment _ => true
  | bytes content => !content.isEmpty
  | set items => !items.isEmpty

/-- The whole number that a truth value or a whole number counts as. -/
def toInt? : Value → Option Int
  | bool b => some (if b then 1 else 0)
  | int n => some n
  | _ => none

def asText? : Value → Option String
  | text s => some s
  | _ => none

def asList? : Value → Option (List Value)
  | list items => some items
  | _ => none

def asMap? : Value → Option Entries
  | map entries => some entries
  | _ => none

/-- Moments are the same if they are the same instant; a local time is never the same as one whose
offset is known. -/
def sameMoment (a b : Calendar.Moment) : Bool :=
  match a.offset, b.offset with
  | none, none => a.microseconds == b.microseconds
  | some x, some y => a.microseconds - x.microseconds == b.microseconds - y.microseconds
  | _, _ => false

/-- Two simple values count as the same: numbers and truth values by what they amount to. Lists, maps
and sets are never simple. -/
def same (a b : Value) : Bool :=
  match a, b with
  | null, null => true
  | text s, text t => s == t
  | date d, date e => d == e
  | moment m, moment n => sameMoment m n
  | bytes x, bytes y => x == y
  | float x, float y => x.same y
  | float x, other | other, float x => other.toInt?.any x.eqInt
  | a, b => match a.toInt?, b.toInt? with
    | some m, some n => m == n
    | _, _ => false

end Value

namespace Entries

def find? {α : Type} (key : Value) : List (Value × α) → Option α
  | [] => none
  | (k, v) :: rest => if k.same key then some v else find? key rest

def get? (entries : Entries) (key : String) : Option Value :=
  find? (.text key) entries

/-- Gives a key a value: in the place of the key if there is one, else at the end. -/
def insert {α : Type} (key : Value) (value : α) : List (Value × α) → List (Value × α)
  | [] => [(key, value)]
  | (k, v) :: rest => if k.same key then (k, value) :: rest else (k, v) :: insert key value rest

/-- Entries written one after the other; the last value of a key stays, in the key's first place. -/
def ofList (pairs : List (Value × Value)) : Entries :=
  pairs.foldl (fun entries (k, v) => insert k v entries) []

def without {α : Type} (key : Value) (entries : List (Value × α)) : List (Value × α) :=
  entries.filter fun (k, _) => !k.same key

def overlay (entries base : Entries) : Entries :=
  entries.foldl (fun all (k, v) => insert k v all) base

def ofFields (fields : List (String × Value)) : Entries :=
  fields.map fun (k, v) => (.text k, v)

end Entries

end PromptTree
