import ModelForge.Discovery
import ModelForge.Generation
/-!
Batches: one task for every discovered input. The items do not share anything but the files, and
what befalls one of them is told in its own outcome; the report lists the items in the order of
their discovery.
-/

namespace ModelForge

/-- What is done with each item. -/
inductive Task
  | validate
  | generate (language : Language) (directory : Option Path)
  deriving DecidableEq, Repr

inductive FailureKind
  | invalidModel
  | unsupportedLanguage
  | invalidTypeName
  | directoryNotFound
  | emissionFailed
  | io
  | aborted
  deriving DecidableEq, Repr

namespace FailureKind

def all : List FailureKind :=
  [invalidModel, unsupportedLanguage, invalidTypeName, directoryNotFound, emissionFailed, io, aborted]

def name : FailureKind → String
  | invalidModel => "invalid_model"
  | unsupportedLanguage => "unsupported_language"
  | invalidTypeName => "invalid_type_name"
  | directoryNotFound => "directory_not_found"
  | emissionFailed => "emission_failed"
  | io => "io"
  | aborted => "aborted"

def ofName? (s : String) : Option FailureKind := all.find? (·.name == s)

end FailureKind

structure Failure where
  kind       : FailureKind
  message    : String
  violations : List Violation := []
  deriving DecidableEq, Repr

namespace Failure

def kindOf : GenerationError → FailureKind
  | .invalidModel .. => .invalidModel
  | .unsupportedLanguage _ => .unsupportedLanguage
  | .directoryNotFound _ => .directoryNotFound
  | .emissionFailed .. => .emissionFailed
  | .document _ => .io
  | .notWritten .. => .io
  | .noTypeName _ => .invalidTypeName

def violationsOf : GenerationError → List Violation
  | .invalidModel _ vs => vs
  | _ => []

def ofError (e : GenerationError) : Failure := ⟨kindOf e, e.message, violationsOf e⟩

def ofDocument (e : DocumentError) : Failure := ⟨.io, e.message, []⟩

/-- All that is known of an item whose work broke off. -/
def ofPanic : Failure := ⟨.aborted, "item task did not complete", []⟩

end Failure

inductive Outcome
  | validated (verdict : Verdict)
  | generated (file : WrittenFile)
  | failed (failure : Failure)
  deriving DecidableEq, Repr

namespace Outcome

def isSuccess : Outcome → Bool
  | validated .valid => true
  | validated (.invalid _) => false
  | generated _ => true
  | failed _ => false

def ofGeneration : Except Halt WrittenFile → Outcome
  | .ok file => generated file
  | .error (.error e) => failed (.ofError e)
  | .error .panic => failed .ofPanic

def ofValidation : Except DocumentError Verdict → Outcome
  | .ok v => validated v
  | .error e => failed (.ofDocument e)

/-- The violations that are shown with an outcome. -/
def violations : Outcome → List Violation
  | validated v => v.violations
  | generated _ => []
  | failed f => f.violations

end Outcome

structure Item where
  input   : Path
  outcome : Outcome
  deriving DecidableEq, Repr

structure Report where
  input  : Path
  total  : Nat
  passed : Nat
  failed : Nat
  items  : List Item
  deriving DecidableEq, Repr

namespace Report

/-- A report with the counts that its items have. -/
def ofItems (input : Path) (items : List Item) : Report :=
  let passed := items.countP (·.outcome.isSuccess)
  ⟨input, items.length, passed, items.length - passed, items⟩

def allPassed (r : Report) : Bool := r.failed = 0

end Report

namespace Batch

/-- Does the task of one item. -/
def process (p : Pipeline) (task : Task) (w : World) (input : Path) : Outcome × World :=
  match task with
  | .validate => (.ofValidation (p.validateFile w.files input), w)
  | .generate l directory =>
    let (result, w) := (p.generateFor input directory l).runIn w
    (.ofGeneration result, w)

/-- Does the task of one item after the other. -/
def processAll (p : Pipeline) (task : Task) : World → List Path → List Item × World
  | w, [] => ([], w)
  | w, input :: rest =>
    let (outcome, w) := process p task w input
    let (items, w) := processAll p task w rest
    (⟨input, outcome⟩ :: items, w)

def run (p : Pipeline) (task : Task) (w : World) (input : Path) : Except BatchError Report × World :=
  match Discovery.inputs w.files input with
  | .error e => (.error e, w)
  | .ok inputs =>
    let (items, w) := processAll p task w inputs
    (.ok (.ofItems input items), w)

end Batch

end ModelForge
