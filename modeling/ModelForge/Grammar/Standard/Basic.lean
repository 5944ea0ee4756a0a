import ModelForge.Grammar.Draft
/-!
Short forms for the schemas that stand most often inside the schemas of schemas.
-/

namespace ModelForge.Grammar.Standard

/-- The schema of the values of one kind. -/
def typed (kind : String) : Json := .obj [("type", .str kind)]

/-- The schema that a reference leads to. -/
def ref (target : String) : Json := .obj [("$ref", .str target)]

def texts (items : List String) : Json := .arr (items.map .str)

end ModelForge.Grammar.Standard
