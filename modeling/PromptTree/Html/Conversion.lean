import PromptTree.Html.Markdown

/-!
What becomes of a downloaded page before it is used.
-/

namespace PromptTree.Html

inductive Conversion where
  | none
  | markdown
  | plainText
deriving DecidableEq, Repr

namespace Conversion

def name : Conversion → String
  | none => "none"
  | markdown => "html2md"
  | plainText => "html2text"

def all : List Conversion := [none, markdown, plainText]

def named? (name : String) : Option Conversion :=
  all.find? (·.name == name)

def apply (page : String) : Conversion → Except Rejected String
  | none => .ok page
  | markdown => Html.markdown page
  | plainText => Html.plainText page

/-- The first characters of a text; a negative limit says how many are left out at the end, and zero or
no limit keeps all. -/
def cut (limit : Option Int) (text : String) : String :=
  match limit with
  | some n =>
    if n = 0 then text
    else if n < 0 then .ofList (text.toList.take (text.length - n.natAbs))
    else .ofList (text.toList.take n.toNat)
  | .none => text

end Conversion

end PromptTree.Html
