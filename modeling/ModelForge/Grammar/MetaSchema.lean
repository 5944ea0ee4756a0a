import ModelForge.Grammar.Reader
import ModelForge.Grammar.Standard
import ModelForge.Grammar.Validation
/-!
The schema of schemas: what a document has to satisfy before it is read as a schema.
-/

namespace ModelForge.Grammar.MetaSchema

/-- The schema of schemas of the newest draft, which all documents have to satisfy. -/
def schemas : Schemas :=
  match Standard.filed? .draft2020 Standard.Draft2020.schema with
  | some (base, r) =>
    match Schemas.ofResource Standard.registry base r with
    | .ok schemas => schemas
    | .error _ => ⟨.always, [], 0⟩
  | none => ⟨.always, [], 0⟩

end ModelForge.Grammar.MetaSchema
