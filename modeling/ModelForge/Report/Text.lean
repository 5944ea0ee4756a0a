import ModelForge.Batch
/-!
The text of a report: one line for each item, its violations indented below, and a summary.
-/

namespace ModelForge

/-- What an item's line says behind the path of the input. -/
def Outcome.summary : Outcome → String
  | .validated .valid => ""
  | .validated (.invalid vs) => ": " ++ toString vs.length ++ " violation(s)"
  | .generated file => " -> " ++ file.path.text ++ " (" ++ toString file.lines ++ " lines)"
  | .failed failure => ": " ++ failure.message

namespace Report

def violationLine (v : Violation) : String := "      " ++ v.text

def itemLine (item : Item) : String :=
  (if item.outcome.isSuccess then "  OK: " else "  FAIL: ") ++ item.input.text ++ item.outcome.summary

def itemLines (item : Item) : List String := itemLine item :: item.outcome.violations.map violationLine

def emptyLines (r : Report) : List String :=
  if r.total = 0 then ["No model files found in " ++ r.input.text] else []

def summaryLines (r : Report) : List String :=
  ("Models: " ++ toString r.passed ++ "/" ++ toString r.total ++ " passed") ::
    if r.failed > 0 then
      ["", toString r.failed ++ " model(s) failed out of " ++ toString r.total ++ " total."]
    else []

def lines (r : Report) : List String := r.emptyLines ++ r.items.flatMap itemLines ++ r.summaryLines

/-- Every line ends with a line feed. -/
def text (r : Report) : String := String.join (r.lines.map (· ++ "\n"))

end Report

end ModelForge
