import ModelForge.Grammar.Registry
/-!
Which keywords of a schema count. A draft knows some keywords and passes over all others; beyond
that, the schema that a schema says it satisfies tells which groups of keywords it uses.
-/

namespace ModelForge.Grammar

/-- The groups of keywords in use. References always count. -/
structure Vocabulary where
  applicators : Bool
  unevaluated : Bool
  validation  : Bool
  deriving DecidableEq, Repr

namespace Vocabulary

/-- Before 2019 schemas told of no groups, and in 2019 unevaluated parts were no group of their own. -/
def ofDraft : Draft → Vocabulary
  | .draft2020 => ⟨true, true, true⟩
  | .draft2019 => ⟨true, false, true⟩
  | _ => ⟨false, false, false⟩

/-- The groups that a schema of schemas demands. -/
def ofSchema? (j : Json) : Option Vocabulary :=
  match j.member? "$id", j.member? "$vocabulary" with
  | some (.str _), some (.obj entries) =>
    let demands (drafts : List Draft) (group : String) : Bool :=
      drafts.any fun d => (Keyed.find? (d.file ("vocab/" ++ group)) entries).bind Json.asBool? = some true
    some ⟨demands [.draft2019, .draft2020] "applicator", demands [.draft2020] "unevaluated",
      demands [.draft2019, .draft2020] "validation"⟩
  | _, _ => none

/-- The groups that a schema uses. -/
def ofResource (g : Registry) (r : Resource) : Vocabulary :=
  match r.draft.within r.contents, Uri.ofText ((Draft.named r.contents).getD "") with
  | some d, _ => ofDraft d
  | none, .ok u => ((g.resource? u).bind fun m => ofSchema? m.contents).getD (ofDraft r.draft)
  | none, .error _ => ofDraft r.draft

def references : List String := ["$ref", "$dynamicRef", "$recursiveRef"]

def applicatorKeywords : List String :=
  ["additionalItems", "additionalProperties", "allOf", "anyOf", "contains", "dependencies", "dependentSchemas",
    "if", "items", "not", "oneOf", "patternProperties", "prefixItems", "properties", "propertyNames"]

def unevaluatedKeywords : List String := ["unevaluatedItems", "unevaluatedProperties"]

/-- Whether a keyword of a draft is in use. In 2019, keywords for unevaluated parts were applicators. -/
def admits (v : Vocabulary) (d : Draft) (keyword : String) : Bool :=
  if d ≤ .draft7 || references.contains keyword then true
  else if applicatorKeywords.contains keyword then v.applicators
  else if unevaluatedKeywords.contains keyword then if d = .draft2019 then v.applicators else v.unevaluated
  else v.validation

end Vocabulary

namespace Draft

/-- Whether a draft knows a keyword; those that all drafts share are left out. -/
def knows (d : Draft) (keyword : String) : Bool :=
  match keyword with
  | "const" | "contains" | "propertyNames" | "exclusiveMinimum" | "exclusiveMaximum" => draft6 ≤ d
  | "contentEncoding" | "contentMediaType" => d = draft6 || d = draft7
  | "if" => draft7 ≤ d
  | "dependentRequired" | "dependentSchemas" | "unevaluatedItems" | "unevaluatedProperties" => draft2019 ≤ d
  | "prefixItems" | "$dynamicRef" => d = draft2020
  | "$recursiveRef" => d = draft2019
  | "format" => d ≤ draft7
  | _ => true

/-- The members of a schema that count: before 2019, a reference hides all others. -/
def counted (d : Draft) (members : List (String × Json)) : List (String × Json) :=
  if d ≤ draft7 && Keyed.contains "$ref" members then members.filter (·.1 = "$ref")
  else members.filter (d.knows ·.1)

end Draft

end ModelForge.Grammar
