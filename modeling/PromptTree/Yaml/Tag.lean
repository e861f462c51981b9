import PromptTree.Regex.Reader
import PromptTree.Regex.Search

/-!
The kinds of data that a node can be marked as, and the kinds that plain texts have without a mark. The
words for yes and no are texts.
-/

namespace PromptTree.Yaml

inductive Tag where
  | null
  | bool
  | int
  | float
  | binary
  | timestamp
  | orderedMap
  | pairs
  | set
  | text
  | list
  | map
  /-- The mark of entries that are taken over from other maps. -/
  | merge
  /-- The mark of the value that stands for a map. -/
  | default
  | unknown
deriving DecidableEq, Repr

namespace Tag

def named (name : String) : Tag :=
  match name with
  | "tag:yaml.org,2002:null" => null
  | "tag:yaml.org,2002:bool" => bool
  | "tag:yaml.org,2002:int" => int
  | "tag:yaml.org,2002:float" => float
  | "tag:yaml.org,2002:binary" => binary
  | "tag:yaml.org,2002:timestamp" => timestamp
  | "tag:yaml.org,2002:omap" => orderedMap
  | "tag:yaml.org,2002:pairs" => pairs
  | "tag:yaml.org,2002:set" => set
  | "tag:yaml.org,2002:str" => text
  | "tag:yaml.org,2002:seq" => list
  | "tag:yaml.org,2002:map" => map
  | "tag:yaml.org,2002:merge" => merge
  | "tag:yaml.org,2002:value" => default
  | _ => unknown

def shape (text : String) : Regex :=
  (Regex.read {} text).toOption.getD .empty

def boolShape : Regex := shape "^(?:true|True|TRUE|false|False|FALSE)$"

def floatShape : Regex := shape
  (r"^(?:[-+]?(?:[0-9][0-9_]*)\.[0-9_]*(?:[eE][-+][0-9]+)?|\.[0-9][0-9_]*(?:[eE][-+][0-9]+)?" ++
    r"|[-+]?[0-9][0-9_]*(?::[0-5]?[0-9])+\.[0-9_]*|[-+]?\.(?:inf|Inf|INF)|\.(?:nan|NaN|NAN))$")

def intShape : Regex := shape
  (r"^(?:[-+]?0b[0-1_]+|[-+]?0[0-7_]+|[-+]?(?:0|[1-9][0-9_]*)|[-+]?0x[0-9a-fA-F_]+" ++
    r"|[-+]?[1-9][0-9_]*(?::[0-5]?[0-9])+)$")

def nullShape : Regex := shape "^(?:~|null|Null|NULL|)$"

def timestampShape : Regex := shape
  (r"^(?:[0-9][0-9][0-9][0-9]-[0-9][0-9]-[0-9][0-9]|[0-9][0-9][0-9][0-9]-[0-9][0-9]?-[0-9][0-9]?" ++
    r"(?:[Tt]|[ \t]+)[0-9][0-9]?:[0-9][0-9]:[0-9][0-9](?:\.[0-9]*)?" ++
    r"(?:[ \t]*(?:Z|[-+][0-9][0-9]?(?::[0-9][0-9])?))?)$")

/-- The kinds that a text can have by the character that it begins with, each with the form it takes. -/
def candidates (first : Option Char) : List (Tag × Regex) :=
  match first with
  | none => [(null, nullShape)]
  | some c =>
    (if "tTfF".contains c then [(bool, boolShape)] else []) ++
    (if c.isDigit || "-+.".contains c then [(float, floatShape)] else []) ++
    (if c.isDigit || "-+".contains c then [(int, intShape)] else []) ++
    (if c = '<' then [(merge, shape "^(?:<<)$")] else []) ++
    (if "~nN".contains c then [(null, nullShape)] else []) ++
    (if c.isDigit then [(timestamp, timestampShape)] else []) ++
    (if c = '=' then [(default, shape "^(?:=)$")] else []) ++
    (if "!&*".contains c then [(unknown, shape r"^(?:!|&|\*)$")] else [])

def ofText (content : String) : Tag :=
  match (candidates content.toList.head?).find? fun (_, form) => form.foundIn content with
  | some (tag, _) => tag
  | none => text

def isCollection : Tag → Bool
  | list | map | set | orderedMap | pairs => true
  | _ => false

end Tag

end PromptTree.Yaml
