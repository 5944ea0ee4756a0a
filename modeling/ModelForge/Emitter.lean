import ModelForge.FileSystem.Basic
import ModelForge.Language
import ModelForge.Output
import ModelForge.Signal
import ModelForge.Text.Lines
/-!
Emitters turn the schema of a model into source lines of a language. An emitter answers with lines,
or with an error, or it panics; it may look at the files around it, and may leave them changed.
-/

namespace ModelForge

structure Request where
  typeName : TypeName
  language : Language
  /-- The model as JSON text. -/
  schema   : String
  deriving DecidableEq, Repr

/-- How a program ended. -/
inductive ExitStatus
  | exited (code : Nat)
  | killed (signal : Nat)
  deriving DecidableEq, Repr

namespace ExitStatus

def message : ExitStatus → String
  | exited code => "exit status: " ++ toString code
  | killed signal =>
    "signal: " ++ toString signal ++
      match Signal.name? signal with
      | some name => " (SIG" ++ name ++ ")"
      | none => ""

end ExitStatus

inductive EmitError
  /-- The program could not be started. -/
  | notStarted (program : Path) (cause : FileError)
  | failed (program : Path) (status : ExitStatus) (diagnostics : String)
  | notText (cause : Text.Utf8.Invalid)
  /-- The emitter refused the request. -/
  | rejected (reason : String)
  deriving DecidableEq, Repr

namespace EmitError

def message : EmitError → String
  | notStarted program cause => "failed to run " ++ program.text ++ ": " ++ cause.message
  | failed program status diagnostics =>
    program.text ++ " exited with " ++ status.message ++ ": " ++ diagnostics
  | notText cause => "emitter output is not valid UTF-8: " ++ cause.message
  | rejected reason => reason

end EmitError

inductive Reply
  | lines (ls : List String)
  | error (e : EmitError)
  | panic
  deriving DecidableEq, Repr

abbrev Emitter := FileSystem → Request → Reply × FileSystem

namespace Emitter

/-- The emitter that answers by the request alone. -/
def ofReply (f : Request → Reply) : Emitter := fun fs r => (f r, fs)

/-- The emitter answers by the request alone and leaves all files as they are. -/
def OfRequest (e : Emitter) : Prop := ∃ f : Request → Reply, e = ofReply f

end Emitter

end ModelForge
