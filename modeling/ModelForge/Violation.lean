import ModelForge.Json.Printer
/-!
Violations: where a document breaks its grammar, by which rule, and how that reads in a report.
-/

namespace ModelForge

structure Violation where
  /-- Pointer to the part of the document. -/
  instancePath : String
  /-- Pointer to the rule, along the way by which it was reached. -/
  schemaPath   : String
  message      : String
  deriving DecidableEq, Repr

namespace Violation

/-- The root of a document is shown as a slash. -/
def location (v : Violation) : String := if v.instancePath.isEmpty then "/" else v.instancePath

/-- The violation on one line. -/
def text (v : Violation) : String := v.location ++ ": " ++ v.message

end Violation

end ModelForge
