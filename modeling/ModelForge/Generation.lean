import ModelForge.Emitter
import ModelForge.Grammar
/-!
Generation of one source file from one model, in a fixed order: read, validate, resolve the
language, derive the type's name, emit, check the directory, write. What fails stops the work
there, so that a file is written only by work that succeeds in whole.
-/

namespace ModelForge

inductive GenerationError
  | invalidModel (path : Path) (violations : List Violation)
  | unsupportedLanguage (cause : UnsupportedLanguage)
  | directoryNotFound (path : Path)
  | emissionFailed (path : Path) (cause : EmitError)
  | document (cause : DocumentError)
  | notWritten (path : Path) (cause : FileError)
  | noTypeName (path : Path)
  deriving DecidableEq, Repr

namespace GenerationError

def message : GenerationError → String
  | invalidModel path violations =>
    "invalid model " ++ path.text ++ ": " ++ toString violations.length ++ " violation(s)"
  | unsupportedLanguage cause => cause.message
  | directoryNotFound path => "output directory not found: " ++ path.text
  | emissionFailed path cause => "emission failed for " ++ path.text ++ ": " ++ cause.message
  | document cause => cause.message
  | notWritten path cause => "failed to write " ++ path.text ++ ": " ++ cause.message
  | noTypeName path =>
    "cannot derive a type name from " ++ path.text ++ ": file name is not an identifier"

end GenerationError

/-- A file that generation wrote. -/
structure WrittenFile where
  path     : Path
  typeName : TypeName
  language : Language
  lines    : Nat
  deriving DecidableEq, Repr

/-- Why work stops before its end. -/
inductive Halt
  | error (e : GenerationError)
  /-- The emitter panicked. -/
  | panic
  deriving DecidableEq, Repr

/-- What work can change: the files, and the record of requests to the emitter. -/
structure World where
  files : FileSystem
  calls : List Request := []
  deriving DecidableEq, Repr

/-- Work in the world. Where it halts, what it did before stays done. -/
abbrev Action (α : Type) := ExceptT Halt (StateM World) α

namespace Action

/-- A result known without work. -/
def ofExcept {α : Type} : Except GenerationError α → Action α
  | .ok a => pure a
  | .error e => throw (.error e)

/-- The result of work that starts in a world, and the world after it. -/
def runIn {α : Type} (a : Action α) (w : World) : Except Halt α × World := StateT.run (ExceptT.run a) w

end Action

/-- A document bound to its language, type name and destination. -/
structure Job where
  document : Document
  language : Language
  typeName : TypeName
  output   : Path
  deriving DecidableEq, Repr

namespace Job

def of (d : Document) (l : Language) (directory : Option Path) : Except GenerationError Job :=
  match TypeName.ofPath? d.path with
  | some name => .ok ⟨d, l, name, Output.path d.path directory name.text l.extension⟩
  | none => .error (.noTypeName d.path)

/-- The directory that has to be there. -/
def directory (job : Job) : Path := job.output.parent?.getD ⟨"."⟩

/-- What the emitter is asked. -/
def request (job : Job) : Except GenerationError Request :=
  match job.document.schemaText with
  | .ok schema => .ok ⟨job.typeName, job.language, schema⟩
  | .error e => .error (.document e)

def emit (emitter : Emitter) (job : Job) : Action (List String) := do
  let request ← .ofExcept job.request
  let w ← get
  let (reply, files) := emitter w.files request
  set { files, calls := w.calls ++ [request] : World }
  match reply with
  | .lines ls => return ls
  | .error e => throw (.error (.emissionFailed job.document.path e))
  | .panic => throw .panic

def checkDirectory (job : Job) : Action Unit := do
  let w ← get
  if w.files.isDirectory job.directory then return ()
  throw (.error (.directoryNotFound job.directory))

/-- The content of a file with these lines. -/
def contentOf (ls : List String) : Bytes := Text.Utf8.encode (Text.unlines (ls.map String.toList))

/-- Writes the whole file; what it held before is gone. -/
def write (job : Job) (ls : List String) : Action WrittenFile := do
  let w ← get
  match w.files.write job.output (contentOf ls) with
  | .ok files =>
    set { w with files }
    return ⟨job.output, job.typeName, job.language, ls.length⟩
  | .error e => throw (.error (.notWritten job.output e))

def run (emitter : Emitter) (job : Job) : Action WrittenFile := do
  let ls ← job.emit emitter
  job.checkDirectory
  job.write ls

end Job

/-- The grammar and the emitter that all work shares. -/
structure Pipeline where
  grammar : Grammar
  emitter : Emitter

namespace Pipeline

variable (p : Pipeline)

def readDocument (input : Path) : Action Document := do
  let w ← get
  .ofExcept ((Document.read w.files input).mapError .document)

/-- Passes over valid documents only. -/
def requireValid (d : Document) : Action Unit :=
  match p.grammar.validateDocument d with
  | .valid => return ()
  | .invalid violations => throw (.error (.invalidModel d.path violations))

/-- Reads a document and validates it. -/
def validateFile (files : FileSystem) (input : Path) : Except DocumentError Verdict :=
  (Document.read files input).map p.grammar.validateDocument

def load (input : Path) : Action Document := do
  let d ← readDocument input
  p.requireValid d
  return d

/-- Generates in a language. -/
def generateFor (input : Path) (directory : Option Path) (l : Language) : Action WrittenFile := do
  let d ← p.load input
  let job ← .ofExcept (Job.of d l directory)
  job.run p.emitter

/-- Generates in the language that a token names, which is looked at after the document. -/
def generate (input : Path) (directory : Option Path) (token : String) : Action WrittenFile := do
  let d ← p.load input
  let l ← .ofExcept ((Language.resolve token).mapError .unsupportedLanguage)
  let job ← .ofExcept (Job.of d l directory)
  job.run p.emitter

end Pipeline

end ModelForge
