import ModelForge.Grammar.Standard.Basic
/-!
The schema of the schemas of draft 4.
-/

namespace ModelForge.Grammar.Standard

/-- The whole schema. -/
def draft4 : Json := .obj [
  ("$schema", .str (Draft.draft4.file "schema#")),
  ("default", .obj []),
  ("definitions", .obj [
      ("positiveInteger", .obj [("minimum", .num (.int 0)), ("type", .str "integer")]),
      ("positiveIntegerDefault0", .obj [("allOf", .arr [ref "#/definitions/positiveInteger", .obj [("default", .num (.int 0))]])]),
      ("schemaArray", .obj [("items", ref "#"), ("minItems", .num (.int 1)), ("type", .str "array")]),
      ("simpleTypes", .obj [("enum", texts ["array", "boolean", "integer", "null", "number", "object", "string"])]),
      ("stringArray", .obj [
          ("items", typed "string"),
          ("minItems", .num (.int 1)),
          ("type", .str "array"),
          ("uniqueItems", .bool true)])]),
  ("dependencies", .obj [("exclusiveMaximum", texts ["maximum"]), ("exclusiveMinimum", texts ["minimum"])]),
  ("description", .str "Core schema meta-schema"),
  ("id", .str (Draft.draft4.file "schema#")),
  ("properties", .obj [
      ("$schema", typed "string"),
      ("additionalItems", .obj [("anyOf", .arr [typed "boolean", ref "#"]), ("default", .obj [])]),
      ("additionalProperties", .obj [("anyOf", .arr [typed "boolean", ref "#"]), ("default", .obj [])]),
      ("allOf", ref "#/definitions/schemaArray"),
      ("anyOf", ref "#/definitions/schemaArray"),
      ("default", .obj []),
      ("definitions", .obj [("additionalProperties", ref "#"), ("default", .obj []), ("type", .str "object")]),
      ("dependencies", .obj [
          ("additionalProperties", .obj [("anyOf", .arr [ref "#", ref "#/definitions/stringArray"])]),
          ("type", .str "object")]),
      ("description", typed "string"),
      ("enum", typed "array"),
      ("exclusiveMaximum", typed "boolean"),
      ("exclusiveMinimum", typed "boolean"),
      ("format", typed "string"),
      ("id", typed "string"),
      ("items", .obj [("anyOf", .arr [ref "#", ref "#/definitions/schemaArray"]), ("default", .obj [])]),
      ("maxItems", ref "#/definitions/positiveInteger"),
      ("maxLength", ref "#/definitions/positiveInteger"),
      ("maxProperties", ref "#/definitions/positiveInteger"),
      ("maximum", typed "number"),
      ("minItems", ref "#/definitions/positiveIntegerDefault0"),
      ("minLength", ref "#/definitions/positiveIntegerDefault0"),
      ("minProperties", ref "#/definitions/positiveIntegerDefault0"),
      ("minimum", typed "number"),
      ("multipleOf", .obj [("exclusiveMinimum", .bool true), ("minimum", .num (.int 0)), ("type", .str "number")]),
      ("not", ref "#"),
      ("oneOf", ref "#/definitions/schemaArray"),
      ("pattern", .obj [("format", .str "regex"), ("type", .str "string")]),
      ("patternProperties", .obj [("additionalProperties", ref "#"), ("default", .obj []), ("type", .str "object")]),
      ("properties", .obj [("additionalProperties", ref "#"), ("default", .obj []), ("type", .str "object")]),
      ("required", ref "#/definitions/stringArray"),
      ("title", typed "string"),
      ("type", .obj [
          ("anyOf", .arr [
              ref "#/definitions/simpleTypes",
              .obj [
                ("items", ref "#/definitions/simpleTypes"),
                ("minItems", .num (.int 1)),
                ("type", .str "array"),
                ("uniqueItems", .bool true)]])]),
      ("uniqueItems", .obj [("default", .bool false), ("type", .str "boolean")])]),
  ("type", .str "object")]

end ModelForge.Grammar.Standard
