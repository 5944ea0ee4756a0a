import ModelForge.Grammar.Draft
import ModelForge.Uri.Resolution
import ModelForge.Json.Pointer
/-!
The registry of all schemas that references can name: those of a document, under the identifiers and
anchors they give themselves. Every document that a schema refers to has to be registered, since
none is fetched.
-/

namespace ModelForge.Grammar

/-- A schema with the draft it follows. -/
structure Resource where
  contents : Json
  draft    : Draft

namespace Resource

def id? (r : Resource) : Option String := r.draft.id? r.contents

end Resource

structure Anchor where
  resource : Resource
  /-- References look for the outermost schema with this anchor. -/
  isDynamic : Bool

/-- What is wrong with a reference. -/
inductive ReferenceError
  | unresolved (cause : ResolutionError)
  | unknownDraft (name : String)
  /-- A document that the registry would have to fetch. -/
  | unavailable (uri : Uri)
  /-- A document that nothing made known when the registry was filled. -/
  | unregistered (uri : Uri)
  | noPointer (pointer : String)
  | badIndex (index pointer : String)
  | badEncoding (pointer : String)
  | noAnchor (name : String)
  | badAnchor (name : String)
  deriving DecidableEq, Repr

namespace ReferenceError

/-- Why a document cannot be fetched. -/
def fetchFailure (u : Uri) : String :=
  let scheme := String.ofList (u.scheme.getD [])
  match scheme with
  | "file" => "No such file or directory (os error 2)"
  | "http" | "https" => "error sending request for url (" ++ u.text ++ ")"
  | _ => "Unknown scheme " ++ scheme

def missing (u : Uri) (reason : String) : String :=
  "Resource '" ++ u.text ++ "' is not present in a registry and retrieving it failed: " ++ reason

def message : ReferenceError → String
  | unresolved cause => cause.message
  | unknownDraft name => "Unknown specification: " ++ name
  | unavailable u => missing u (fetchFailure u)
  | unregistered u => missing u "Retrieving external resources is not supported once the registry is populated"
  | noPointer p => "Pointer '" ++ p ++ "' does not exist"
  | badIndex i p => "Failed to parse array index '" ++ i ++ "' in pointer '" ++ p ++ "'"
  | badEncoding p =>
    "Invalid percent encoding in pointer '" ++ p ++ "': the decoded bytes do not represent valid UTF-8"
  | noAnchor a => "Anchor '" ++ a ++ "' does not exist"
  | badAnchor a => "Anchor '" ++ a ++ "' is invalid"

end ReferenceError

structure Registry where
  resources : List (Uri × Resource) := []
  anchors   : List ((Uri × String) × Anchor) := []

namespace Registry

/-- Completes a reference by a base. -/
def resolve (base : Uri) (reference : String) : Except ReferenceError Uri :=
  match base.resolve reference with
  | .ok u => .ok u
  | .error cause => .error (.unresolved cause)

/-- The base below a schema. -/
def baseWithin (base : Uri) (r : Resource) : Except ReferenceError Uri :=
  match r.id? with
  | some id => resolve base id
  | none => .ok base

def resource? (g : Registry) (u : Uri) : Option Resource := (g.resources.find? (·.1 = u)).map (·.2)

/-- The anchor under a name in a resource, which may also know itself by another identifier. -/
def anchor? (g : Registry) (u : Uri) (name : String) : Option Anchor :=
  let under (u : Uri) : Option Anchor := (g.anchors.find? (·.1 = (u, name))).map (·.2)
  under u <|> ((g.resource? u).bind Resource.id?).bind fun id =>
    match Uri.ofText id with
    | .ok u => under u
    | .error _ => none

/-- Notes the names of a schema. -/
def insert (g : Registry) (base : Uri) (r : Resource) : Registry where
  resources := if r.id?.isSome then (base, r) :: g.resources else g.resources
  anchors :=
    ((r.draft.anchors r.contents).reverse.map fun (name, isDynamic) => ((base, name), ⟨r, isDynamic⟩)) ++ g.anchors

/-- Whether a reference leads to one of the documents that every registry knows. -/
def isWellKnown (reference : String) : Bool :=
  Draft.all.any fun d => d.directory.toList.isPrefixOf reference.toList

/-- The documents that a schema needs by its own reference and by its draft. A reference into the
same schema is followed, which leads to a smaller schema, so that its depth bounds the steps. -/
def needs (base : Uri) : Nat → Json → Except ReferenceError (List Uri)
  | 0, _ => .ok []
  | fuel + 1, j => do
    let texts := ["$ref", "$schema"].filterMap fun k => (j.member? k).bind Json.asString?
    let found ← texts.mapM fun s =>
      if isWellKnown s then pure []
      else if s.toList.head? = some '#' then
        match Pointer.read? (s.toList.dropWhile (· = '#')) with
        | some (t :: rest) =>
          match j.at? (t :: rest) with
          | some target => needs base fuel target
          | none => pure []
        | _ => pure []
      else return [(← resolve base s).whole]
    return found.flatten

/-- What is known and what is missing while a registry is filled. -/
structure Survey where
  registry : Registry
  needed   : List Uri

namespace Survey

/-- Notes what a schema needs, where it stands under a base. -/
def require (s : Survey) (base : Uri) (j : Json) : Except ReferenceError Survey :=
  if base.scheme = some "urn".toList then .ok s
  else return { s with needed := s.needed ++ (← needs base (j.depth + 1) j) }

/-- Notes a schema and returns the schemas right inside it with the base of each. -/
def visit (s : Survey) (outer : Uri) (r : Resource) : Except ReferenceError (Survey × List (Uri × Resource)) := do
  let base ← baseWithin outer r
  let s ← { s with registry := s.registry.insert base r }.require base r.contents
  let enter (s : Survey) (j : Json) : Except ReferenceError (Survey × Resource) :=
    match r.draft.within j with
    | none => .error (.unknownDraft ((Draft.named j).getD ""))
    | some draft => do return (← s.require (← baseWithin base ⟨j, draft⟩) j, ⟨j, draft⟩)
  (r.draft.subschemas r.contents).foldlM (fun (s, inside) j => do
    let (s, sub) ← enter s j
    return (s, inside ++ [(base, sub)])) (s, [])

/-- Visits schemas level by level. -/
def visitLevels : Nat → List (Uri × Resource) → Survey → Except ReferenceError Survey
  | 0, _, s => .ok s
  | fuel + 1, level, s => do
    let (s, inside) ← level.foldlM (fun (s, inside) (base, r) => do
      let (s, more) ← s.visit base r
      return (s, inside ++ more)) (s, [])
    visitLevels fuel inside s

end Survey

/-- The registry with the schemas of more documents, each of which stands under a base. -/
def addDocuments (g : Registry) (documents : List (Uri × Resource)) : Except ReferenceError Registry := do
  let known : Registry := { g with resources := documents.reverse ++ g.resources }
  let depth := documents.foldl (fun n d => max n d.2.contents.depth) 0
  let s ← Survey.visitLevels (depth + 1) documents ⟨known, []⟩
  match s.needed.find? fun u => (s.registry.resource? u).isNone with
  | some u => .error (.unavailable u)
  | none => .ok s.registry

end Registry

end ModelForge.Grammar
