import PromptTree.Uri
import PromptTree.Scope

/-!
Requests to services, and what comes back.
-/

namespace PromptTree.Web

/-- A request that sends data. -/
structure Post where
  url : String
  body : Value
  /-- User and password. -/
  credentials : Option (String × String)
  headers : Scope
  timeout : Value

structure Get where
  url : String
  headers : Scope
  timeout : Value

/-- What comes back for sent data. -/
inductive Answer where
  /-- The service cannot be reached or refuses. -/
  | unreachable (detail : String)
  /-- The answer is not JSON. -/
  | notJson (detail : String)
  | data (v : Value)

/-- A network; `β` is what its answers depend on. -/
structure Network (β : Type) where
  post : Post → β → Answer × β
  /-- The text of a page, or why there is none. -/
  get : Get → β → Except String String × β

end PromptTree.Web
