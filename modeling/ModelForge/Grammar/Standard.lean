import ModelForge.Grammar.Registry
import ModelForge.Grammar.Standard.Draft4
import ModelForge.Grammar.Standard.Draft6
import ModelForge.Grammar.Standard.Draft7
import ModelForge.Grammar.Standard.Draft2019
import ModelForge.Grammar.Standard.Draft2020
/-!
The documents that every grammar can refer to: the schemas of schemas of all drafts.
-/

namespace ModelForge.Grammar.Standard

def documents : Draft → List Json
  | .draft4 => [draft4]
  | .draft6 => [draft6]
  | .draft7 => [draft7]
  | .draft2019 =>
    [Draft2019.schema, Draft2019.core, Draft2019.applicator, Draft2019.validation, Draft2019.metaData,
      Draft2019.format, Draft2019.content]
  | .draft2020 =>
    [Draft2020.schema, Draft2020.core, Draft2020.applicator, Draft2020.unevaluated, Draft2020.validation,
      Draft2020.metaData, Draft2020.format, Draft2020.content]

/-- A document under the identifier that it gives itself. -/
def filed? (d : Draft) (j : Json) : Option (Uri × Resource) :=
  match (d.id? j).map Uri.ofText with
  | some (.ok u) => some (u, ⟨j, d⟩)
  | _ => none

def registry : Registry :=
  match Registry.addDocuments {} (Draft.all.flatMap fun d => (documents d).filterMap (filed? d)) with
  | .ok g => g
  | .error _ => {}

end ModelForge.Grammar.Standard
