import ModelForge.CommandLine.Help
import ModelForge.CommandLine.Parser
import ModelForge.Program
import ModelForge.Run
import ModelForge.Settings
/-!
The tool as a function: from a command line, an environment and a file system to what is printed,
the exit code and the files afterwards. The configuration is read first, then the grammar; only
with both does a run begin.
-/

namespace ModelForge

/-- How an execution of the tool ends. -/
structure Execution where
  code       : Nat
  output     : String := ""
  /-- The message on the error stream, if there is one. -/
  diagnostic : Option String := none
  files      : FileSystem
  /-- What the emitter has been asked for. -/
  calls      : List Request := []
  deriving DecidableEq, Repr

namespace CommandLine

/-- Why the tool cannot do its work. -/
inductive ToolError
  | config (cause : ConfigError)
  | grammar (path : Path) (cause : GrammarError)
  | batch (cause : BatchError)

namespace ToolError

/-- The message with its causes. -/
def message : ToolError → String
  | config cause => cause.message
  | grammar path cause => "failed to load grammar " ++ path.text ++ ": " ++ cause.message
  | batch cause =>
    match cause with
    | .pathNotFound _ => cause.message
    | .notListed _ e => cause.message ++ ": " ++ e.message

end ToolError

def failure (message : String) (w : World) : Execution where
  code := Exit.operational
  diagnostic := some ("error: " ++ message)
  files := w.files
  calls := w.calls

namespace Arguments

def flags (a : Arguments) : Flags where
  language := a.language
  output := a.output
  grammar := a.grammar
  program := a.program

/-- The settings of a run, with the configuration file if one is named. -/
def settings (a : Arguments) (env : Environment) (fs : FileSystem) : Except ConfigError Settings :=
  match a.config with
  | none => .ok (.resolve a.flags env {})
  | some path => (ConfigFile.load fs path).map (Settings.resolve a.flags env)

end Arguments

/-- The grammar and the emitter that settings name. -/
def pipeline (s : Settings) (fs : FileSystem) : Except ToolError Pipeline :=
  let emitter := (Program.mk s.program s.arguments).emitter
  match s.grammar with
  | none => .ok ⟨.bundled, emitter⟩
  | some path =>
    match Grammar.load fs path with
    | .ok g => .ok ⟨g, emitter⟩
    | .error e => .error (.grammar path e)

/-- A run in its mode, with settings and a pipeline made of them. -/
def runMode (mode : Mode) (s : Settings) (p : Pipeline) (fs : FileSystem) (format : ReportFormat) :
    Except BatchError Printed × World :=
  match mode with
  | .validate input => Run.validate p { files := fs } input format
  | .generate input => Run.generate p { files := fs } input s.language s.output format

/-- Does what a command line asks for. -/
def execute (a : Arguments) (env : Environment) (fs : FileSystem) : Execution :=
  match a.settings env fs with
  | .error e => failure (ToolError.config e).message { files := fs }
  | .ok s =>
    match pipeline s fs with
    | .error e => failure e.message { files := fs }
    | .ok p =>
      match runMode a.mode s p fs a.reportFormat with
      | (.ok printed, w) => { code := printed.code, output := printed.output, files := w.files, calls := w.calls }
      | (.error e, w) => failure (ToolError.batch e).message w

/-- The whole tool. -/
def main (args : List String) (env : Environment) (fs : FileSystem) : Execution :=
  match parse args with
  | .error e => failure e.message { files := fs }
  | .ok (.help long) => { code := Exit.ok, output := Help.text long, files := fs }
  | .ok .version => { code := Exit.ok, output := Help.version, files := fs }
  | .ok (.run a) => execute a env fs

end CommandLine

end ModelForge
