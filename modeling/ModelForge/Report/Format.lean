import ModelForge.Report.Json
import ModelForge.Report.Text
/-!
The two formats in which results are printed.
-/

namespace ModelForge

inductive ReportFormat
  | text
  | json
  deriving DecidableEq, Repr

namespace ReportFormat

def name : ReportFormat → String
  | text => "text"
  | json => "json"

def ofName? (s : String) : Option ReportFormat := [text, json].find? (·.name == s)

end ReportFormat

namespace Report

/-- The printed form; the JSON form has no final line feed. -/
def render (r : Report) : ReportFormat → String
  | .text => r.text
  | .json => r.json.pretty

end Report

namespace Rejection

/-- The printed form, which ends with a line feed in either format. -/
def render (r : Rejection) : ReportFormat → String
  | .text => r.text
  | .json => r.json.pretty ++ "\n"

end Rejection

end ModelForge
