import ModelForge.Batch
import ModelForge.Report.Rejection
/-!
Reports and rejections as JSON, and back. Writing keeps a fixed order of the members, reading does
not depend on it.
-/

namespace ModelForge

namespace Violation

def json (v : Violation) : Json :=
  .obj [("instance_path", .str v.instancePath), ("schema_path", .str v.schemaPath), ("message", .str v.message)]

def ofJson? (j : Json) : Option Violation := do
  return ⟨← (← j.member? "instance_path").asString?, ← (← j.member? "schema_path").asString?,
    ← (← j.member? "message").asString?⟩

def listOfJson? (j : Json) : Option (List Violation) := j.asArray?.bind (·.mapM ofJson?)

end Violation

namespace Verdict

def json : Verdict → Json
  | valid => .obj [("status", .str "valid")]
  | invalid vs => .obj [("status", .str "invalid"), ("violations", .arr (vs.map Violation.json))]

def ofJson? (j : Json) : Option Verdict := do
  match ← (← j.member? "status").asString? with
  | "valid" => return valid
  | "invalid" => return invalid (← Violation.listOfJson? (← j.member? "violations"))
  | _ => none

end Verdict

namespace WrittenFile

def json (f : WrittenFile) : Json :=
  .obj [("path", .str f.path.text), ("type_name", .str f.typeName.text),
    ("language", .str f.language.canonicalName), ("lines", .num (.int f.lines))]

def ofJson? (j : Json) : Option WrittenFile := do
  return ⟨⟨← (← j.member? "path").asString?⟩, ⟨← (← j.member? "type_name").asString?⟩,
    ← Language.ofToken? (← (← j.member? "language").asString?), ← (← j.member? "lines").asNat?⟩

end WrittenFile

namespace Failure

/-- An empty list of violations is left out. -/
def json (f : Failure) : Json :=
  .obj ([("kind", .str f.kind.name), ("message", .str f.message)] ++
    if f.violations.isEmpty then [] else [("violations", .arr (f.violations.map Violation.json))])

def ofJson? (j : Json) : Option Failure := do
  let violations ← match j.member? "violations" with
    | some vs => Violation.listOfJson? vs
    | none => some []
  return ⟨← FailureKind.ofName? (← (← j.member? "kind").asString?), ← (← j.member? "message").asString?, violations⟩

end Failure

namespace Outcome

/-- An outcome is told by a tag, with its content beside it. -/
def members : Outcome → List (String × Json)
  | validated verdict => [("outcome", .str "validated"), ("result", verdict.json)]
  | generated file => [("outcome", .str "generated"), ("file", file.json)]
  | failed failure => [("outcome", .str "failed"), ("failure", failure.json)]

def ofJson? (j : Json) : Option Outcome := do
  match ← (← j.member? "outcome").asString? with
  | "validated" => return validated (← Verdict.ofJson? (← j.member? "result"))
  | "generated" => return generated (← WrittenFile.ofJson? (← j.member? "file"))
  | "failed" => return failed (← Failure.ofJson? (← j.member? "failure"))
  | _ => none

end Outcome

namespace Item

def json (item : Item) : Json := .obj (("input", .str item.input.text) :: item.outcome.members)

def ofJson? (j : Json) : Option Item := do
  return ⟨⟨← (← j.member? "input").asString?⟩, ← Outcome.ofJson? j⟩

end Item

namespace Report

def json (r : Report) : Json :=
  .obj [("input", .str r.input.text), ("total", .num (.int r.total)), ("passed", .num (.int r.passed)),
    ("failed", .num (.int r.failed)), ("items", .arr (r.items.map Item.json))]

def ofJson? (j : Json) : Option Report := do
  return ⟨⟨← (← j.member? "input").asString?⟩, ← (← j.member? "total").asNat?, ← (← j.member? "passed").asNat?,
    ← (← j.member? "failed").asNat?, ← (← (← j.member? "items").asArray?).mapM Item.ofJson?⟩

end Report

namespace Rejection

def supportedOfJson? (j : Json) : Option (List String) := do
  (← (← j.member? "supported").asArray?).mapM Json.asString?

def ofJson? (j : Json) : Option Rejection := do
  match ← (← j.member? "error").asString? with
  | "path_not_found" => return pathNotFound ⟨← (← j.member? "path").asString?⟩
  | "missing_language" => return missingLanguage (← supportedOfJson? j)
  | "unsupported_language" => return unsupportedLanguage (← (← j.member? "token").asString?) (← supportedOfJson? j)
  | _ => none

end Rejection

end ModelForge
