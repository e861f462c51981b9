import PromptTree.Document.Vocabulary
import PromptTree.Files.Basic
import PromptTree.Yaml.Data

/-!
Workflows read from texts and from files.
-/

namespace PromptTree.Document

/-- Why a text does not make a workflow. -/
inductive SourceFault where
  | refused (refusal : Refusal)
  /-- A value in the text is no data. -/
  | value (fault : Yaml.Fault)
  /-- The file holds no text. -/
  | encoding (fault : Text.Utf8.Fault)
deriving DecidableEq, Repr

def notRead (detail : String) : SourceFault :=
  .refused (.problems [⟨"", .unreadable detail⟩])

def readYaml (text : String) : Except SourceFault Document :=
  match Yaml.read text with
  | .ok v => match ofValue v with
    | .ok document => .ok document
    | .error refusal => .error (.refused refusal)
  | .error .malformed => .error (notRead Text.unworded)
  | .error fault => .error (.value fault)

def readXml (text : String) : Except SourceFault Document :=
  match Xml.read text with
  | some node => match ofXml node with
    | .ok document => .ok document
    | .error refusal => .error (.refused refusal)
  | none => .error (notRead Text.unworded)

/-- The workflow in a file: in XML if the file's ending says so, else in YAML. -/
def ofFile (files : Files) (path : Files.Path) : Except SourceFault Document :=
  match files.readText path with
  | .error (.file fault) => .error (notRead fault.message)
  | .error (.encoding fault) => .error (.encoding fault)
  | .ok text => if path.extension = ".xml" then readXml text else readYaml text

end PromptTree.Document
