import ModelForge.FileSystem.Edit
import ModelForge.FileSystem.Setup
import ModelForge.Shell.Run
/-!
Emitters that are programs. The schema is put into a file of its own, whose path is the last
argument; what the program writes becomes the lines, unless it fails. Programs are shell scripts, or
installed ones; what they do to the files around them stays.
-/

namespace ModelForge

structure Program where
  path      : Path
  /-- Arguments behind the ones that every request has. -/
  arguments : List String := []
  deriving DecidableEq, Repr

namespace Program

/-- Where a request's schema is put for the program to read. -/
def schemaFile : Path := ⟨"/tmp/mtypes-schema.json"⟩

/-- The arguments for a request. -/
def argumentsFor (p : Program) (r : Request) : List String :=
  ["--src-lang", "schema", "--lang", r.language.emitterName, "--top-level", r.typeName.text] ++ p.arguments ++
    [schemaFile.text]

/-- What a program leaves when it has ended. -/
structure Result where
  status      : ExitStatus
  output      : Bytes
  diagnostics : Bytes
  deriving DecidableEq, Repr

/-- Whether a text cannot be handed over to a program. -/
def hasNul (s : String) : Bool := s.toList.contains '\x00'

/-- What starting the program comes to. -/
def invocation (p : Program) (fs : FileSystem) (arguments : List String) : Except FileError Shell.Invocation :=
  if hasNul p.path.text || arguments.any hasNul then .error .nulInArgument
  else if p.path.text.isEmpty then .error .notFound
  else
    let search := (Keyed.find? "PATH" Shell.usualBindings).getD []
    Shell.Invocation.find fs search (Shell.letters p.path.text) (arguments.map Shell.letters)

/-- The file system without the schema's own file, and with relative paths starting where they did. -/
def tidied (before after : FileSystem) : FileSystem :=
  { (after.removeFile schemaFile).toOption.getD after with home := before.home }

def run (p : Program) (fs : FileSystem) (r : Request) : Except FileError Result × FileSystem :=
  let staged := fs.addFile schemaFile (Text.Utf8.encode r.schema.toList)
  match p.invocation staged (p.argumentsFor r) with
  | .error e => (.error e, fs)
  | .ok i =>
    let (st, status) := i.run staged
    (.ok ⟨status, st.buffer Shell.State.outputBuffer, st.buffer Shell.State.diagnosticsBuffer⟩, tidied fs st.files)

/-- The lines of a program's output, which has to be text. -/
def linesOf (output : Bytes) : Except Text.Utf8.Invalid (List String) :=
  (Text.Utf8.decode output).map fun s => (Text.lines s).map String.ofList

def reply (p : Program) : Except FileError Result → Reply
  | .error e => .error (.notStarted p.path e)
  | .ok result =>
    if result.status ≠ .exited 0 then
      .error (.failed p.path result.status
        (String.ofList (Text.trim (Text.Utf8.decodeLossy result.diagnostics))))
    else
      match linesOf result.output with
      | .ok ls => .lines ls
      | .error e => .error (.notText e)

/-- What running a program for a request comes to, and the files after it. -/
abbrev Runner := FileSystem → Request → Except FileError Result × FileSystem

/-- The emitter that a program is, whatever it is that runs it. -/
def emitterBy (p : Program) (run : Runner) : Emitter := fun fs r =>
  let (result, files) := run fs r
  (p.reply result, files)

def emitter (p : Program) : Emitter := p.emitterBy p.run

end Program

end ModelForge
