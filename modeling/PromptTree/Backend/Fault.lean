import PromptTree.Uri

/-!
Why a backend gives no answer.
-/

namespace PromptTree.Backend

/-- Why a backend gives no answer. -/
inductive Fault where
  /-- The backend could not be reached, or its answer is of no use. -/
  | failed (message : String)
  /-- The configured address is not an address. -/
  | address (fault : Uri.Fault)
  /-- The configured address is not a text. -/
  | addressNotText (kind : String)
  /-- The message in an answer is not a map. -/
  | messageNotMap
  /-- The content of a message is not a text. -/
  | contentNotText
deriving DecidableEq, Repr

def Fault.message : Fault → String
  | failed message => message
  | address fault => fault.message
  | addressNotText kind => s!"the address is a {kind}"
  | messageNotMap => "the message is not a map"
  | contentNotText => "the content is not a text"

end PromptTree.Backend
