import ModelForge.Grammar.Standard.Basic
/-!
The schema of the schemas of draft 6.
-/

namespace ModelForge.Grammar.Standard

/-- The whole schema. -/
def draft6 : Json := .obj [
  ("$id", .str (Draft.draft6.file "schema#")),
  ("$schema", .str (Draft.draft6.file "schema#")),
  ("default", .obj []),
  ("definitions", .obj [
      ("nonNegativeInteger", .obj [("minimum", .num (.int 0)), ("type", .str "integer")]),
      ("nonNegativeIntegerDefault0", .obj [
          ("allOf", .arr [ref "#/definitions/nonNegativeInteger", .obj [("default", .num (.int 0))]])]),
      ("schemaArray", .obj [("items", ref "#"), ("minItems", .num (.int 1)), ("type", .str "array")]),
      ("simpleTypes", .obj [("enum", texts ["array", "boolean", "integer", "null", "number", "object", "string"])]),
      ("stringArray", .obj [
          ("default", .arr []),
          ("items", typed "string"),
          ("type", .str "array"),
          ("uniqueItems", .bool true)])]),
  ("properties", .obj [
      ("$id", .obj [("format", .str "uri-reference"), ("type", .str "string")]),
      ("$ref", .obj [("format", .str "uri-reference"), ("type", .str "string")]),
      ("$schema", .obj [("format", .str "uri"), ("type", .str "string")]),
      ("additionalItems", ref "#"),
      ("additionalProperties", ref "#"),
      ("allOf", ref "#/definitions/schemaArray"),
      ("anyOf", ref "#/definitions/schemaArray"),
      ("const", .obj []),
      ("contains", ref "#"),
      ("default", .obj []),
      ("definitions", .obj [("additionalProperties", ref "#"), ("default", .obj []), ("type", .str "object")]),
      ("dependencies", .obj [
          ("additionalProperties", .obj [("anyOf", .arr [ref "#", ref "#/definitions/stringArray"])]),
          ("type", .str "object")]),
      ("description", typed "string"),
      ("enum", typed "array"),
      ("examples", .obj [("items", .obj []), ("type", .str "array")]),
      ("exclusiveMaximum", typed "number"),
      ("exclusiveMinimum", typed "number"),
      ("format", typed "string"),
      ("items", .obj [("anyOf", .arr [ref "#", ref "#/definitions/schemaArray"]), ("default", .obj [])]),
      ("maxItems", ref "#/definitions/nonNegativeInteger"),
      ("maxLength", ref "#/definitions/nonNegativeInteger"),
      ("maxProperties", ref "#/definitions/nonNegativeInteger"),
      ("maximum", typed "number"),
      ("minItems", ref "#/definitions/nonNegativeIntegerDefault0"),
      ("minLength", ref "#/definitions/nonNegativeIntegerDefault0"),
      ("minProperties", ref "#/definitions/nonNegativeIntegerDefault0"),
      ("minimum", typed "number"),
      ("multipleOf", .obj [("exclusiveMinimum", .num (.int 0)), ("type", .str "number")]),
      ("not", ref "#"),
      ("oneOf", ref "#/definitions/schemaArray"),
      ("pattern", .obj [("format", .str "regex"), ("type", .str "string")]),
      ("patternProperties", .obj [("additionalProperties", ref "#"), ("default", .obj []), ("type", .str "object")]),
      ("properties", .obj [("additionalProperties", ref "#"), ("default", .obj []), ("type", .str "object")]),
      ("propertyNames", ref "#"),
      ("required", ref "#/definitions/stringArray"),
      ("title", typed "string"),
      ("type", .obj [
          ("anyOf", .arr [
              ref "#/definitions/simpleTypes",
              .obj [
                ("items", ref "#/definitions/simpleTypes"),
                ("minItems", .num (.int 1)),
                ("type", .str "array"),
                ("uniqueItems", .bool true)]])]),
      ("uniqueItems", .obj [("default", .bool false), ("type", .str "boolean")])]),
  ("title", .str "Core schema meta-schema"),
  ("type", texts ["object", "boolean"])]

end ModelForge.Grammar.Standard
