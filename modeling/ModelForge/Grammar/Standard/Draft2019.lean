import ModelForge.Grammar.Standard.Basic
/-!
The schemas of the schemas of the draft of 2019, one for each group of keywords.
-/

namespace ModelForge.Grammar.Standard

/-- All keywords together, each group with its own schema. -/
def Draft2019.schema : Json := .obj [
  ("$id", .str (Draft.draft2019.file "schema")),
  ("$recursiveAnchor", .bool true),
  ("$schema", .str (Draft.draft2019.file "schema")),
  ("$vocabulary", .obj [
      (Draft.draft2019.file "vocab/applicator", .bool true),
      (Draft.draft2019.file "vocab/content", .bool true),
      (Draft.draft2019.file "vocab/core", .bool true),
      (Draft.draft2019.file "vocab/format", .bool false),
      (Draft.draft2019.file "vocab/meta-data", .bool true),
      (Draft.draft2019.file "vocab/validation", .bool true)]),
  ("allOf", .arr [
      ref "meta/core",
      ref "meta/applicator",
      ref "meta/validation",
      ref "meta/meta-data",
      ref "meta/format",
      ref "meta/content"]),
  ("properties", .obj [
      ("definitions", .obj [
          ("$comment",
            .str "While no longer an official keyword as it is replaced by $defs, this keyword is retained in the meta-schema to prevent incompatible extensions as it remains in common use."),
          ("additionalProperties", .obj [("$recursiveRef", .str "#")]),
          ("default", .obj []),
          ("type", .str "object")]),
      ("dependencies", .obj [
          ("$comment",
            .str "\"dependencies\" is no longer a keyword, but schema authors should avoid redefining it to facilitate a smooth transition to \"dependentSchemas\" and \"dependentRequired\""),
          ("additionalProperties", .obj [
              ("anyOf", .arr [.obj [("$recursiveRef", .str "#")], ref "meta/validation#/$defs/stringArray"])]),
          ("type", .str "object")])]),
  ("title", .str "Core and Validation specifications meta-schema"),
  ("type", texts ["object", "boolean"])]

/-- Identifiers, anchors and references. -/
def Draft2019.core : Json := .obj [
  ("$id", .str (Draft.draft2019.file "meta/core")),
  ("$recursiveAnchor", .bool true),
  ("$schema", .str (Draft.draft2019.file "schema")),
  ("$vocabulary", .obj [(Draft.draft2019.file "vocab/core", .bool true)]),
  ("properties", .obj [
      ("$anchor", .obj [("pattern", .str "^[A-Za-z][-A-Za-z0-9.:_]*$"), ("type", .str "string")]),
      ("$comment", typed "string"),
      ("$defs", .obj [
          ("additionalProperties", .obj [("$recursiveRef", .str "#")]),
          ("default", .obj []),
          ("type", .str "object")]),
      ("$id", .obj [
          ("$comment", .str "Non-empty fragments not allowed."),
          ("format", .str "uri-reference"),
          ("pattern", .str "^[^#]*#?$"),
          ("type", .str "string")]),
      ("$recursiveAnchor", .obj [("default", .bool false), ("type", .str "boolean")]),
      ("$recursiveRef", .obj [("format", .str "uri-reference"), ("type", .str "string")]),
      ("$ref", .obj [("format", .str "uri-reference"), ("type", .str "string")]),
      ("$schema", .obj [("format", .str "uri"), ("type", .str "string")]),
      ("$vocabulary", .obj [
          ("additionalProperties", typed "boolean"),
          ("propertyNames", .obj [("format", .str "uri"), ("type", .str "string")]),
          ("type", .str "object")])]),
  ("title", .str "Core vocabulary meta-schema"),
  ("type", texts ["object", "boolean"])]

/-- Keywords that apply other schemas. -/
def Draft2019.applicator : Json := .obj [
  ("$defs", .obj [
      ("schemaArray", .obj [
          ("items", .obj [("$recursiveRef", .str "#")]),
          ("minItems", .num (.int 1)),
          ("type", .str "array")])]),
  ("$id", .str (Draft.draft2019.file "meta/applicator")),
  ("$recursiveAnchor", .bool true),
  ("$schema", .str (Draft.draft2019.file "schema")),
  ("$vocabulary", .obj [(Draft.draft2019.file "vocab/applicator", .bool true)]),
  ("properties", .obj [
      ("additionalItems", .obj [("$recursiveRef", .str "#")]),
      ("additionalProperties", .obj [("$recursiveRef", .str "#")]),
      ("allOf", ref "#/$defs/schemaArray"),
      ("anyOf", ref "#/$defs/schemaArray"),
      ("contains", .obj [("$recursiveRef", .str "#")]),
      ("dependentSchemas", .obj [("additionalProperties", .obj [("$recursiveRef", .str "#")]), ("type", .str "object")]),
      ("else", .obj [("$recursiveRef", .str "#")]),
      ("if", .obj [("$recursiveRef", .str "#")]),
      ("items", .obj [("anyOf", .arr [.obj [("$recursiveRef", .str "#")], ref "#/$defs/schemaArray"])]),
      ("not", .obj [("$recursiveRef", .str "#")]),
      ("oneOf", ref "#/$defs/schemaArray"),
      ("patternProperties", .obj [
          ("additionalProperties", .obj [("$recursiveRef", .str "#")]),
          ("default", .obj []),
          ("propertyNames", .obj [("format", .str "regex")]),
          ("type", .str "object")]),
      ("properties", .obj [
          ("additionalProperties", .obj [("$recursiveRef", .str "#")]),
          ("default", .obj []),
          ("type", .str "object")]),
      ("propertyNames", .obj [("$recursiveRef", .str "#")]),
      ("then", .obj [("$recursiveRef", .str "#")]),
      ("unevaluatedItems", .obj [("$recursiveRef", .str "#")]),
      ("unevaluatedProperties", .obj [("$recursiveRef", .str "#")])]),
  ("title", .str "Applicator vocabulary meta-schema"),
  ("type", texts ["object", "boolean"])]

/-- Keywords that check a value. -/
def Draft2019.validation : Json := .obj [
  ("$defs", .obj [
      ("nonNegativeInteger", .obj [("minimum", .num (.int 0)), ("type", .str "integer")]),
      ("nonNegativeIntegerDefault0", .obj [("$ref", .str "#/$defs/nonNegativeInteger"), ("default", .num (.int 0))]),
      ("simpleTypes", .obj [("enum", texts ["array", "boolean", "integer", "null", "number", "object", "string"])]),
      ("stringArray", .obj [
          ("default", .arr []),
          ("items", typed "string"),
          ("type", .str "array"),
          ("uniqueItems", .bool true)])]),
  ("$id", .str (Draft.draft2019.file "meta/validation")),
  ("$recursiveAnchor", .bool true),
  ("$schema", .str (Draft.draft2019.file "schema")),
  ("$vocabulary", .obj [(Draft.draft2019.file "vocab/validation", .bool true)]),
  ("properties", .obj [
      ("const", .bool true),
      ("dependentRequired", .obj [("additionalProperties", ref "#/$defs/stringArray"), ("type", .str "object")]),
      ("enum", .obj [("items", .bool true), ("type", .str "array")]),
      ("exclusiveMaximum", typed "number"),
      ("exclusiveMinimum", typed "number"),
      ("maxContains", ref "#/$defs/nonNegativeInteger"),
      ("maxItems", ref "#/$defs/nonNegativeInteger"),
      ("maxLength", ref "#/$defs/nonNegativeInteger"),
      ("maxProperties", ref "#/$defs/nonNegativeInteger"),
      ("maximum", typed "number"),
      ("minContains", .obj [("$ref", .str "#/$defs/nonNegativeInteger"), ("default", .num (.int 1))]),
      ("minItems", ref "#/$defs/nonNegativeIntegerDefault0"),
      ("minLength", ref "#/$defs/nonNegativeIntegerDefault0"),
      ("minProperties", ref "#/$defs/nonNegativeIntegerDefault0"),
      ("minimum", typed "number"),
      ("multipleOf", .obj [("exclusiveMinimum", .num (.int 0)), ("type", .str "number")]),
      ("pattern", .obj [("format", .str "regex"), ("type", .str "string")]),
      ("required", ref "#/$defs/stringArray"),
      ("type", .obj [
          ("anyOf", .arr [
              ref "#/$defs/simpleTypes",
              .obj [
                ("items", ref "#/$defs/simpleTypes"),
                ("minItems", .num (.int 1)),
                ("type", .str "array"),
                ("uniqueItems", .bool true)]])]),
      ("uniqueItems", .obj [("default", .bool false), ("type", .str "boolean")])]),
  ("title", .str "Validation vocabulary meta-schema"),
  ("type", texts ["object", "boolean"])]

/-- Keywords that describe a value. -/
def Draft2019.metaData : Json := .obj [
  ("$id", .str (Draft.draft2019.file "meta/meta-data")),
  ("$recursiveAnchor", .bool true),
  ("$schema", .str (Draft.draft2019.file "schema")),
  ("$vocabulary", .obj [(Draft.draft2019.file "vocab/meta-data", .bool true)]),
  ("properties", .obj [
      ("default", .bool true),
      ("deprecated", .obj [("default", .bool false), ("type", .str "boolean")]),
      ("description", typed "string"),
      ("examples", .obj [("items", .bool true), ("type", .str "array")]),
      ("readOnly", .obj [("default", .bool false), ("type", .str "boolean")]),
      ("title", typed "string"),
      ("writeOnly", .obj [("default", .bool false), ("type", .str "boolean")])]),
  ("title", .str "Meta-data vocabulary meta-schema"),
  ("type", texts ["object", "boolean"])]

/-- The keyword for the form of a text. -/
def Draft2019.format : Json := .obj [
  ("$id", .str (Draft.draft2019.file "meta/format")),
  ("$recursiveAnchor", .bool true),
  ("$schema", .str (Draft.draft2019.file "schema")),
  ("$vocabulary", .obj [(Draft.draft2019.file "vocab/format", .bool true)]),
  ("properties", .obj [("format", typed "string")]),
  ("title", .str "Format vocabulary meta-schema"),
  ("type", texts ["object", "boolean"])]

/-- Keywords for texts that hold other data. -/
def Draft2019.content : Json := .obj [
  ("$id", .str (Draft.draft2019.file "meta/content")),
  ("$recursiveAnchor", .bool true),
  ("$schema", .str (Draft.draft2019.file "schema")),
  ("$vocabulary", .obj [(Draft.draft2019.file "vocab/content", .bool true)]),
  ("properties", .obj [
      ("contentEncoding", typed "string"),
      ("contentMediaType", typed "string"),
      ("contentSchema", .obj [("$recursiveRef", .str "#")])]),
  ("title", .str "Content vocabulary meta-schema"),
  ("type", texts ["object", "boolean"])]

end ModelForge.Grammar.Standard
