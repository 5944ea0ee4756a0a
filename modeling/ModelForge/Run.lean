import ModelForge.Report.Format
/-!
Runs over an input, as the two modes of the tool: what they print, and with which code they exit.
-/

namespace ModelForge

/-- What a run prints, and its exit code. -/
structure Printed where
  code   : Nat
  output : String
  deriving DecidableEq, Repr

namespace Exit

/-- Every item succeeded. -/
def ok : Nat := 0

/-- Some item failed, or the request was refused. -/
def failed : Nat := 1

/-- The tool could not do its work. -/
def operational : Nat := 2

end Exit

namespace Run

def reject (r : Rejection) (format : ReportFormat) : Printed := ⟨Exit.failed, r.render format⟩

def print (r : Report) (format : ReportFormat) : Printed :=
  ⟨if r.allPassed then Exit.ok else Exit.failed, r.render format⟩

/-- A batch as a run. Only a directory that cannot be listed is an error of the tool. -/
def batch (p : Pipeline) (task : Task) (w : World) (input : Path) (format : ReportFormat) :
    Except BatchError Printed × World :=
  match Batch.run p task w input with
  | (.ok report, w) => (.ok (print report format), w)
  | (.error (.pathNotFound path), w) => (.ok (reject (.pathNotFound path) format), w)
  | (.error e, w) => (.error e, w)

def validate (p : Pipeline) (w : World) (input : Path) (format : ReportFormat) :
    Except BatchError Printed × World :=
  batch p .validate w input format

/-- The language is looked at first, before the input. -/
def generate (p : Pipeline) (w : World) (input : Path) (token : Option String) (directory : Option Path)
    (format : ReportFormat) : Except BatchError Printed × World :=
  match token with
  | none => (.ok (reject .missingLanguage format), w)
  | some token =>
    match Language.resolve token with
    | .error e => (.ok (reject (.ofLanguage (some e)) format), w)
    | .ok l => batch p (.generate l directory) w input format

end Run

end ModelForge
