import ModelForge.Grammar.Schema
/-!
The bundled grammar: what a model is unless another grammar is given. A model is an object whose
root describes an object type by its properties; a property is a node, which says at least how it
is typed and may contain further nodes.
-/

namespace ModelForge.Grammar.Bundled

def id : String := "https://mtypes.dev/grammar/model.schema.json"

/-- The kinds that a node can name, in the order in which they are listed to the user. -/
def kinds : List String := ["string", "number", "integer", "boolean", "object", "array", "null"]

/-- The keywords that type a node; one of them at least has to be there. -/
def typing : List String := ["type", "$ref", "enum", "const", "oneOf", "anyOf", "allOf"]

def ref (target : String) : Schema := .all [.reference "$ref" (.link target)]

def ofKind (k : Kind) : Schema := .all [.check (.kind [k])]

def text : Schema := ofKind .string

def nonEmptyText : Schema := .all [.check (.minLength 1), .check (.kind [.string])]

def count : Schema := .all [.check (.minimum (.int 0)), .check (.kind [.integer])]

def primitive : Schema := .all [.check (.enum (kinds.map .str))]

def typeSpec : Schema := .all [
  .oneOf [
    ref "/$defs/primitive",
    .all [.items "items" 0 (ref "/$defs/primitive"), .check (.minItems 1), .check (.kind [.array]), .check .uniqueItems]]]

def requiredList : Schema :=
  .all [.items "items" 0 nonEmptyText, .check (.kind [.array]), .check .uniqueItems]

def propertyMap : Schema :=
  .all [.additionalProperties [] [] (some (ref "/$defs/node")), .check (.kind [.object])]

def additional : Schema := .all [.oneOf [ofKind .boolean, ref "/$defs/node"]]

def nodeList : Schema :=
  .all [.items "items" 0 (ref "/$defs/node"), .check (.minItems 1), .check (.kind [.array])]

def nodeProperties : List (String × Schema) := [
  ("$ref", nonEmptyText),
  ("additionalProperties", ref "/$defs/additional"),
  ("allOf", ref "/$defs/nodeList"),
  ("anyOf", ref "/$defs/nodeList"),
  ("const", .always),
  ("default", .always),
  ("description", text),
  ("enum", .all [.check (.minItems 1), .check (.kind [.array])]),
  ("examples", ofKind .array),
  ("format", text),
  ("items", ref "/$defs/node"),
  ("maxItems", count),
  ("maxLength", count),
  ("maximum", ofKind .number),
  ("minItems", count),
  ("minLength", count),
  ("minimum", ofKind .number),
  ("oneOf", ref "/$defs/nodeList"),
  ("pattern", text),
  ("properties", ref "/$defs/propertyMap"),
  ("required", ref "/$defs/requiredList"),
  ("title", text),
  ("type", ref "/$defs/typeSpec")]

def node : Schema := .all [
  .anyOf (typing.map fun name => .all [.check (.required [name])]),
  .properties nodeProperties,
  .check (.kind [.object])]

def modelProperties : List (String × Schema) := [
  ("$defs", ref "/$defs/propertyMap"),
  ("$id", text),
  ("$schema", text),
  ("additionalProperties", ref "/$defs/additional"),
  ("definitions", ref "/$defs/propertyMap"),
  ("description", text),
  ("properties", ref "/$defs/propertyMap"),
  ("required", ref "/$defs/requiredList"),
  ("title", nonEmptyText),
  ("type", .all [.check (.const (.str "object"))])]

def model : Schema := .all [
  .properties modelProperties,
  .check (.required ["type", "properties"]),
  .check (.kind [.object])]

def schemas : Schemas where
  root := model
  size := 100
  targets := [
    ("/$defs/additional", additional),
    ("/$defs/node", node),
    ("/$defs/nodeList", nodeList),
    ("/$defs/primitive", primitive),
    ("/$defs/propertyMap", propertyMap),
    ("/$defs/requiredList", requiredList),
    ("/$defs/typeSpec", typeSpec)]

end ModelForge.Grammar.Bundled
