import ModelForge.Document
import ModelForge.Grammar.Bundled
import ModelForge.Grammar.MetaSchema
/-!
Grammars: the schemas that model documents are validated by, under an identifier. One grammar is
bundled; another one may be read from a file. Validation reports every violation.
-/

namespace ModelForge

structure Grammar where
  id      : String
  schemas : Grammar.Schemas

inductive GrammarError
  | unreadable (path : Path) (reason : String)
  | malformed (id : String) (reason : String)
  deriving DecidableEq, Repr

namespace GrammarError

def message : GrammarError → String
  | unreadable path reason => "failed to load grammar " ++ path.text ++ ": " ++ reason
  | malformed id reason => "failed to compile grammar " ++ id ++ ": " ++ reason

end GrammarError

/-- What the validation of one document comes to. -/
inductive Verdict
  | valid
  | invalid (violations : List Violation)
  deriving DecidableEq, Repr

namespace Verdict

def ofViolations : List Violation → Verdict
  | [] => valid
  | vs => invalid vs

def violations : Verdict → List Violation
  | valid => []
  | invalid vs => vs

end Verdict

namespace Grammar

def bundled : Grammar := ⟨Bundled.id, Bundled.schemas⟩

/-- The identifier of grammars that have none of their own. -/
def anonymous : String := "urn:mtypes:grammar:custom"

def idOf (document : Json) : String := ((document.member? "$id").bind Json.asString?).getD anonymous

/-- The registry of a document and the base under which the document stands in it. -/
def register (document : Json) : Except ReferenceError (Registry × Uri) := do
  let base ← match Draft.draft2020.id? document with
    | some id => Registry.resolve Uri.root id
    | none => pure Uri.root
  return (← Standard.registry.addDocuments [(base, ⟨document, .draft2020⟩)], base)

/-- A grammar from its document. What the document refers to has to be there, then the document has
to satisfy the schema of schemas, and then it is read. -/
def ofDocument (document : Json) : Except GrammarError Grammar :=
  let id := idOf document
  match register document with
  | .error e => .error (.malformed id e.message)
  | .ok (registry, base) =>
    match MetaSchema.schemas.findings document with
    | f :: _ => .error (.malformed id f.problem.message)
    | [] =>
      match Schemas.ofResource registry base ⟨document, .draft2020⟩ with
      | .ok schemas => .ok ⟨id, schemas⟩
      | .error e => .error (.malformed id e.message)

/-- A grammar from a file, which is JSON whatever its name. -/
def load (fs : FileSystem) (path : Path) : Except GrammarError Grammar :=
  match fs.readText path with
  | .error e => .error (.unreadable path e.message)
  | .ok text =>
    match Json.parse text with
    | .error e => .error (.unreadable path e.message)
    | .ok document => ofDocument document

/-- What a value violates. -/
def violations (g : Grammar) (v : Json) : List Violation := (g.schemas.findings v).map (·.violation)

def validate (g : Grammar) (v : Json) : Verdict := .ofViolations (g.violations v)

/-- A text that is not even a value breaks every grammar, once. -/
def notParsed (format : Format) (reason : String) : Verdict :=
  .invalid [⟨"", "", "document is not valid " ++ format.name ++ ": " ++ reason⟩]

def validateText (g : Grammar) (text : String) : Verdict :=
  match Json.parse text with
  | .ok v => g.validate v
  | .error e => notParsed .json e.message

def validateDocument (g : Grammar) (d : Document) : Verdict :=
  match d.parsed with
  | .ok v => g.validate v
  | .error e => notParsed d.format e

end Grammar

end ModelForge
