import ModelForge.Json.Basic
/-!
The drafts of the schema language. Each draft says how a schema is given an identifier and anchors,
and under which of its keywords further schemas stand.
-/

namespace ModelForge.Grammar

/-- The drafts, from the oldest to the newest. -/
inductive Draft
  | draft4
  | draft6
  | draft7
  | draft2019
  | draft2020
  deriving DecidableEq, Repr

namespace Draft

def all : List Draft := [draft4, draft6, draft7, draft2019, draft2020]

/-- The place at which the documents of a draft are kept. -/
def directory (d : Draft) : String :=
  let place (scheme path : String) : String := scheme ++ "://json-schema.org/" ++ path ++ "/"
  match d with
  | draft4 => place "http" "draft-04"
  | draft6 => place "http" "draft-06"
  | draft7 => place "http" "draft-07"
  | draft2019 => place "https" "draft/2019-09"
  | draft2020 => place "https" "draft/2020-12"

/-- The identifier of a document of a draft. -/
def file (d : Draft) (name : String) : String := d.directory ++ name

/-- The schema that all schemas of a draft satisfy. -/
def uri (d : Draft) : String := d.file "schema"

def rank : Draft → Nat
  | draft4 => 4
  | draft6 => 6
  | draft7 => 7
  | draft2019 => 8
  | draft2020 => 9

instance : LE Draft := ⟨fun a b => a.rank ≤ b.rank⟩

instance (a b : Draft) : Decidable (a ≤ b) := inferInstanceAs (Decidable (a.rank ≤ b.rank))

/-- A text without the number signs at its end. -/
def trimmed (s : String) : String := String.ofList (s.toList.reverse.dropWhile (· = '#')).reverse

def ofUri? (s : String) : Option Draft := all.find? (·.uri == s)

/-- The draft that a schema says it follows, if it names one. -/
def named (j : Json) : Option String := ((j.member? "$schema").bind Json.asString?).map trimmed

/-- The draft of a schema inside one of another draft; none if it names an unknown one. -/
def within (outer : Draft) (j : Json) : Option Draft :=
  match named j with
  | some name => ofUri? name
  | none => some outer

/-- The member that gives a schema its identifier. -/
def idKeyword (d : Draft) : String := if d = draft4 then "id" else "$id"

/-- The identifier that a schema gives itself. Before 2019, an identifier beside a reference
does not count, and one that begins with a number sign is an anchor. -/
def id? (d : Draft) (j : Json) : Option String :=
  let own := (j.member? d.idKeyword).bind Json.asString?
  if draft2019 ≤ d then own.map trimmed
  else if (j.member? "$ref").isSome then none
  else (own.filter fun s => s.toList.head? ≠ some '#').map trimmed

/-- The anchors of a schema, each with whether references to it look for the outermost schema with
this anchor. -/
def anchors (d : Draft) (j : Json) : List (String × Bool) :=
  let text (k : String) : Option String := (j.member? k).bind Json.asString?
  let plain (s : Option String) : List (String × Bool) := s.toList.map (·, false)
  match d with
  | draft2020 => plain (text "$anchor") ++ (text "$dynamicAnchor").toList.map (·, true)
  | draft2019 => plain (text "$anchor")
  | _ =>
    match (text d.idKeyword).map String.toList with
    | some ('#' :: name) => [(String.ofList name, false)]
    | _ => []

/-- Keywords with one schema. -/
def singleKeywords : Draft → List String
  | draft2020 =>
    ["additionalProperties", "contains", "contentSchema", "else", "if", "items", "not", "propertyNames",
      "then", "unevaluatedItems", "unevaluatedProperties"]
  | draft2019 =>
    ["additionalItems", "additionalProperties", "contains", "contentSchema", "else", "if", "not",
      "propertyNames", "then", "unevaluatedItems", "unevaluatedProperties"]
  | draft7 =>
    ["additionalItems", "additionalProperties", "contains", "else", "if", "not", "propertyNames", "then"]
  | draft6 => ["additionalItems", "additionalProperties", "contains", "not", "propertyNames"]
  | draft4 => ["additionalItems", "additionalProperties", "not"]

/-- Keywords with a list of schemas. -/
def listKeywords : Draft → List String
  | draft2020 => ["allOf", "anyOf", "oneOf", "prefixItems"]
  | _ => ["allOf", "anyOf", "oneOf"]

/-- Keywords with schemas by name. -/
def namedKeywords (d : Draft) : List String :=
  if draft2019 ≤ d then ["$defs", "definitions", "dependentSchemas", "patternProperties", "properties"]
  else ["definitions", "patternProperties", "properties"]

/-- The schemas right under one keyword. -/
def subschemasUnder (d : Draft) (keyword : String) (value : Json) : List Json :=
  let named := (value.asObject?.getD []).map (·.2)
  if d.singleKeywords.contains keyword then [value]
  else if d.listKeywords.contains keyword then value.asArray?.getD []
  else if d.namedKeywords.contains keyword then named
  else if keyword = "items" then value.asArray?.getD [value]
  else if keyword = "dependencies" && d ≤ draft7 then named.filter (·.asObject?.isSome)
  else []

/-- The schemas right inside a schema, in the order of its keywords. -/
def subschemas (d : Draft) (j : Json) : List Json :=
  (j.asObject?.getD []).flatMap fun (k, v) => d.subschemasUnder k v

/-- Whether a way down from a schema ends at a schema, with nothing on the way but keywords that hold
schemas and what stands right under them. A position in a list has no name. -/
def leadsToSchema (d : Draft) (j : Json) : List (Option String) → Bool
  | [] => true
  | none :: rest => d.leadsToSchema j rest
  | some k :: rest =>
    let mixed := (k = "items" && d ≤ draft2019) || (k = "dependencies" && d ≤ draft7)
    if mixed && j.asObject?.isSome then true
    else if d.singleKeywords.contains k then d.leadsToSchema j rest
    else
      match rest with
      | [] => false
      | _ :: rest => (d.listKeywords ++ d.namedKeywords).contains k && d.leadsToSchema j rest

end Draft

end ModelForge.Grammar
