import ModelForge.FileSystem.Basic
import ModelForge.Json.Parser
import ModelForge.Json.Printer
import ModelForge.Yaml.Reader
/-!
Model documents: text in JSON or YAML, as the extension of its path tells. A document is parsed
into a JSON value; the schema text handed to an emitter is JSON in either case.
-/

namespace ModelForge

inductive Format
  | json
  | yaml
  deriving DecidableEq, Repr

namespace Format

def name : Format → String
  | json => "JSON"
  | yaml => "YAML"

def ofPath (p : Path) : Format := if p.hasExtension "yaml" || p.hasExtension "yml" then yaml else json

end Format

inductive DocumentError
  | unreadable (path : Path) (cause : FileError)
  | malformed (path : Path) (reason : String)
  deriving DecidableEq, Repr

namespace DocumentError

def message : DocumentError → String
  | unreadable path cause => "failed to read " ++ path.text ++ ": " ++ cause.message
  | malformed path reason => "failed to parse " ++ path.text ++ ": " ++ reason

end DocumentError

structure Document where
  path : Path
  raw  : String
  deriving DecidableEq, Repr

namespace Document

def format (d : Document) : Format := .ofPath d.path

/-- The value of the text, or what its reader says about it. -/
def parsed (d : Document) : Except String Json :=
  match d.format with
  | .json => (Json.parse d.raw).mapError Json.ParseError.message
  | .yaml => (Yaml.parse d.raw).mapError Yaml.Error.message

/-- The schema as JSON text: a JSON document as it stands, a YAML document written anew. -/
def schemaText (d : Document) : Except DocumentError String :=
  match d.format with
  | .json => .ok d.raw
  | .yaml =>
    match d.parsed with
    | .ok v => .ok v.pretty
    | .error reason => .error (.malformed d.path reason)

def read (fs : FileSystem) (path : Path) : Except DocumentError Document :=
  match fs.readText path with
  | .ok raw => .ok ⟨path, raw⟩
  | .error cause => .error (.unreadable path cause)

end Document

end ModelForge
