import PromptTree.Files.Path
import PromptTree.Text.Newline
import PromptTree.Text.Utf8

/-!
Files and folders, by the places where they stand.
-/

namespace PromptTree

namespace Files

/-- What stands at a place. -/
inductive Entry where
  | folder
  | file (content : List UInt8)
deriving DecidableEq, Repr

inductive Trouble where
  | missing
  | notFolder
  | isFolder
deriving DecidableEq, Repr

def Trouble.wording : Trouble → Nat × String
  | missing => (2, "No such file or directory")
  | notFolder => (20, "Not a directory")
  | isFolder => (21, "Is a directory")

structure Fault where
  trouble : Trouble
  path : Path
deriving DecidableEq, Repr

def Fault.message (f : Fault) : String :=
  let (number, wording) := f.trouble.wording
  s!"[Errno {number}] {wording}: {Text.quoted f.path.text}"

/-- Why a file has no text. -/
inductive TextFault where
  | file (fault : Fault)
  | encoding (fault : Text.Utf8.Fault)
deriving DecidableEq, Repr

end Files

/-- Files and folders, by the places where they stand, and the place where relative paths begin. -/
structure Files where
  here : List String
  entries : List (List String × Files.Entry)

namespace Files

/-- What stands at a place. Where something stands inside, there is a folder. -/
def find? (files : Files) (place : List String) : Option Entry :=
  match files.entries.lookup place with
  | some entry => some entry
  | none =>
    if place.isPrefixOf files.here || files.entries.any fun (p, _) => place.isPrefixOf p then some .folder
    else none

/-- The place that parts lead to from a place, through folders only. -/
def walk (files : Files) (place : List String) : List String → Except Trouble (List String)
  | [] => .ok place
  | part :: parts =>
    match files.find? place with
    | none => .error .missing
    | some (.file _) => .error .notFolder
    | some .folder => walk files (Path.follow place [part]) parts

def locate (files : Files) (path : Path) : Except Trouble (List String) :=
  files.walk (if path.slashes = 0 then files.here else []) path.parts

def exists? (files : Files) (path : Path) : Bool :=
  match files.locate path with
  | .ok place => (files.find? place).isSome
  | .error _ => false

def read (files : Files) (path : Path) : Except Fault (List UInt8) :=
  match files.locate path with
  | .error trouble => .error ⟨trouble, path⟩
  | .ok place =>
    match files.find? place with
    | none => .error ⟨.missing, path⟩
    | some .folder => .error ⟨.isFolder, path⟩
    | some (.file content) => .ok content

/-- The text of a file. A line may end in it in any way. -/
def readText (files : Files) (path : Path) : Except TextFault String :=
  match files.read path with
  | .error fault => .error (.file fault)
  | .ok content =>
    match Text.Utf8.decode content with
    | .error fault => .error (.encoding fault)
    | .ok s => .ok (.ofList (Text.normalizeNewlines s.toList))

def placeFor (files : Files) (path : Path) : Except Fault (List String) :=
  match files.locate path with
  | .error trouble => .error ⟨trouble, path⟩
  | .ok place =>
    if files.find? place = some .folder then .error ⟨.isFolder, path⟩ else .ok place

end Files

end PromptTree
