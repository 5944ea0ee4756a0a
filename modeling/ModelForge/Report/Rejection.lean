import ModelForge.Json.Printer
import ModelForge.Language
import ModelForge.Path
/-!
Rejections: requests that are refused before any item is looked at.
-/

namespace ModelForge

/-- The names that a language may be given by. -/
def Rejection.supported : List String := Language.all.map (·.canonicalName)

/-- Where a language is asked for, the names of languages go along. -/
inductive Rejection
  | pathNotFound (path : Path)
  | missingLanguage (supported : List String := Rejection.supported)
  | unsupportedLanguage (token : String) (supported : List String := Rejection.supported)
  deriving DecidableEq, Repr

namespace Rejection

/-- The rejection of no language, or of an unknown one. -/
def ofLanguage : Option UnsupportedLanguage → Rejection
  | none => missingLanguage
  | some e => unsupportedLanguage e.token

def supportedLines : String :=
  "Supported languages:\n" ++ String.join (supported.map fun n => "  " ++ n ++ "\n")

def text : Rejection → String
  | pathNotFound path => "File not found: " ++ path.text ++ "\n"
  | missingLanguage _ => "No target language given (use --langauge <LANG>)\n" ++ supportedLines
  | unsupportedLanguage token _ => "Unsupported language: \"" ++ token ++ "\"\n" ++ supportedLines

/-- The members in the order in which they are written. -/
def json : Rejection → Json
  | pathNotFound path => .obj [("error", .str "path_not_found"), ("path", .str path.text)]
  | missingLanguage supported => .obj [("error", .str "missing_language"), ("supported", .arr (supported.map .str))]
  | unsupportedLanguage token supported =>
    .obj [("error", .str "unsupported_language"), ("token", .str token),
      ("supported", .arr (supported.map .str))]

end Rejection

end ModelForge
