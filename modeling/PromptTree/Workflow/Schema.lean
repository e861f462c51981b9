import PromptTree.Workflow.Step

/-!
The schema that tells a backend which variables to fill in, and how.
-/

namespace PromptTree.Workflow

def schemaDraft : String := "http://json-schema.org/draft-07/schema#"

def property (g : Generated) : Value :=
  .map (Entries.ofFields (("type", .text "string") ::
    ((if g.options.isEmpty then [] else [("enum", .list (g.options.map .text))]) ++
      ((usedPattern g.pattern).map fun p => ("pattern", .text p)).toList)))

/-- What a schema says about each variable; of two with one name the later counts. -/
def properties (generated : List Generated) : Entries :=
  Entries.ofList (generated.map fun g => (.text g.name, property g))

def requiredNames (generated : List Generated) : List String :=
  (generated.filter (·.required)).map (·.name)

/-- The schema of some variables: each is a text, and there are no others. -/
def schema (generated : List Generated) : Value :=
  .map (Entries.ofFields
    [("$schema", .text schemaDraft), ("type", .text "object"),
     ("required", .list ((requiredNames generated).map .text)), ("properties", .map (properties generated)),
     ("additionalProperties", .bool false)])

end PromptTree.Workflow
