import ModelForge.Grammar.Standard.Basic
/-!
The schemas of the schemas of the draft of 2020, one for each group of keywords.
-/

namespace ModelForge.Grammar.Standard

/-- All keywords together, each group with its own schema. -/
def Draft2020.schema : Json := .obj [
  ("$comment",
    .str "This meta-schema also defines keywords that have appeared in previous drafts in order to prevent incompatible extensions as they remain in common use."),
  ("$dynamicAnchor", .str "meta"),
  ("$id", .str (Draft.draft2020.file "schema")),
  ("$schema", .str (Draft.draft2020.file "schema")),
  ("$vocabulary", .obj [
      (Draft.draft2020.file "vocab/applicator", .bool true),
      (Draft.draft2020.file "vocab/content", .bool true),
      (Draft.draft2020.file "vocab/core", .bool true),
      (Draft.draft2020.file "vocab/format-annotation", .bool true),
      (Draft.draft2020.file "vocab/meta-data", .bool true),
      (Draft.draft2020.file "vocab/unevaluated", .bool true),
      (Draft.draft2020.file "vocab/validation", .bool true)]),
  ("allOf", .arr [
      ref "meta/core",
      ref "meta/applicator",
      ref "meta/unevaluated",
      ref "meta/validation",
      ref "meta/meta-data",
      ref "meta/format-annotation",
      ref "meta/content"]),
  ("properties", .obj [
      ("$recursiveAnchor", .obj [
          ("$comment", .str "\"$recursiveAnchor\" has been replaced by \"$dynamicAnchor\"."),
          ("$ref", .str "meta/core#/$defs/anchorString"),
          ("deprecated", .bool true)]),
      ("$recursiveRef", .obj [
          ("$comment", .str "\"$recursiveRef\" has been replaced by \"$dynamicRef\"."),
          ("$ref", .str "meta/core#/$defs/uriReferenceString"),
          ("deprecated", .bool true)]),
      ("definitions", .obj [
          ("$comment", .str "\"definitions\" has been replaced by \"$defs\"."),
          ("additionalProperties", .obj [("$dynamicRef", .str "#meta")]),
          ("default", .obj []),
          ("deprecated", .bool true),
          ("type", .str "object")]),
      ("dependencies", .obj [
          ("$comment",
            .str "\"dependencies\" has been split and replaced by \"dependentSchemas\" and \"dependentRequired\" in order to serve their differing semantics."),
          ("additionalProperties", .obj [
              ("anyOf", .arr [.obj [("$dynamicRef", .str "#meta")], ref "meta/validation#/$defs/stringArray"])]),
          ("default", .obj []),
          ("deprecated", .bool true),
          ("type", .str "object")])]),
  ("title", .str "Core and Validation specifications meta-schema"),
  ("type", texts ["object", "boolean"])]

/-- Identifiers, anchors and references. -/
def Draft2020.core : Json := .obj [
  ("$defs", .obj [
      ("anchorString", .obj [("pattern", .str "^[A-Za-z_][-A-Za-z0-9._]*$"), ("type", .str "string")]),
      ("uriReferenceString", .obj [("format", .str "uri-reference"), ("type", .str "string")]),
      ("uriString", .obj [("format", .str "uri"), ("type", .str "string")])]),
  ("$dynamicAnchor", .str "meta"),
  ("$id", .str (Draft.draft2020.file "meta/core")),
  ("$schema", .str (Draft.draft2020.file "schema")),
  ("$vocabulary", .obj [(Draft.draft2020.file "vocab/core", .bool true)]),
  ("properties", .obj [
      ("$anchor", ref "#/$defs/anchorString"),
      ("$comment", typed "string"),
      ("$defs", .obj [("additionalProperties", .obj [("$dynamicRef", .str "#meta")]), ("type", .str "object")]),
      ("$dynamicAnchor", ref "#/$defs/anchorString"),
      ("$dynamicRef", ref "#/$defs/uriReferenceString"),
      ("$id", .obj [
          ("$comment", .str "Non-empty fragments not allowed."),
          ("$ref", .str "#/$defs/uriReferenceString"),
          ("pattern", .str "^[^#]*#?$")]),
      ("$ref", ref "#/$defs/uriReferenceString"),
      ("$schema", ref "#/$defs/uriString"),
      ("$vocabulary", .obj [
          ("additionalProperties", typed "boolean"),
          ("propertyNames", ref "#/$defs/uriString"),
          ("type", .str "object")])]),
  ("title", .str "Core vocabulary meta-schema"),
  ("type", texts ["object", "boolean"])]

/-- Keywords that apply other schemas. -/
def Draft2020.applicator : Json := .obj [
  ("$defs", .obj [
      ("schemaArray", .obj [
          ("items", .obj [("$dynamicRef", .str "#meta")]),
          ("minItems", .num (.int 1)),
          ("type", .str "array")])]),
  ("$dynamicAnchor", .str "meta"),
  ("$id", .str (Draft.draft2020.file "meta/applicator")),
  ("$schema", .str (Draft.draft2020.file "schema")),
  ("$vocabulary", .obj [(Draft.draft2020.file "vocab/applicator", .bool true)]),
  ("properties", .obj [
      ("additionalProperties", .obj [("$dynamicRef", .str "#meta")]),
      ("allOf", ref "#/$defs/schemaArray"),
      ("anyOf", ref "#/$defs/schemaArray"),
      ("contains", .obj [("$dynamicRef", .str "#meta")]),
      ("dependentSchemas", .obj [
          ("additionalProperties", .obj [("$dynamicRef", .str "#meta")]),
          ("default", .obj []),
          ("type", .str "object")]),
      ("else", .obj [("$dynamicRef", .str "#meta")]),
      ("if", .obj [("$dynamicRef", .str "#meta")]),
      ("items", .obj [("$dynamicRef", .str "#meta")]),
      ("not", .obj [("$dynamicRef", .str "#meta")]),
      ("oneOf", ref "#/$defs/schemaArray"),
      ("patternProperties", .obj [
          ("additionalProperties", .obj [("$dynamicRef", .str "#meta")]),
          ("default", .obj []),
          ("propertyNames", .obj [("format", .str "regex")]),
          ("type", .str "object")]),
      ("prefixItems", ref "#/$defs/schemaArray"),
      ("properties", .obj [
          ("additionalProperties", .obj [("$dynamicRef", .str "#meta")]),
          ("default", .obj []),
          ("type", .str "object")]),
      ("propertyNames", .obj [("$dynamicRef", .str "#meta")]),
      ("then", .obj [("$dynamicRef", .str "#meta")])]),
  ("title", .str "Applicator vocabulary meta-schema"),
  ("type", texts ["object", "boolean"])]

/-- Keywords for what no other keyword has looked at. -/
def Draft2020.unevaluated : Json := .obj [
  ("$dynamicAnchor", .str "meta"),
  ("$id", .str (Draft.draft2020.file "meta/unevaluated")),
  ("$schema", .str (Draft.draft2020.file "schema")),
  ("$vocabulary", .obj [(Draft.draft2020.file "vocab/unevaluated", .bool true)]),
  ("properties", .obj [
      ("unevaluatedItems", .obj [("$dynamicRef", .str "#meta")]),
      ("unevaluatedProperties", .obj [("$dynamicRef", .str "#meta")])]),
  ("title", .str "Unevaluated applicator vocabulary meta-schema"),
  ("type", texts ["object", "boolean"])]

/-- Keywords that check a value. -/
def Draft2020.validation : Json := .obj [
  ("$defs", .obj [
      ("nonNegativeInteger", .obj [("minimum", .num (.int 0)), ("type", .str "integer")]),
      ("nonNegativeIntegerDefault0", .obj [("$ref", .str "#/$defs/nonNegativeInteger"), ("default", .num (.int 0))]),
      ("simpleTypes", .obj [("enum", texts ["array", "boolean", "integer", "null", "number", "object", "string"])]),
      ("stringArray", .obj [
          ("default", .arr []),
          ("items", typed "string"),
          ("type", .str "array"),
          ("uniqueItems", .bool true)])]),
  ("$dynamicAnchor", .str "meta"),
  ("$id", .str (Draft.draft2020.file "meta/validation")),
  ("$schema", .str (Draft.draft2020.file "schema")),
  ("$vocabulary", .obj [(Draft.draft2020.file "vocab/validation", .bool true)]),
  ("properties", .obj [
      ("const", .bool true),
      ("dependentRequired", .obj [("additionalProperties", ref "#/$defs/stringArray"), ("type", .str "object")]),
      ("enum", .obj [("items", .bool true), ("type", .str "array")]),
      ("exclusiveMaximum", typed "number"),
      ("exclusiveMinimum", typed "number"),
      ("maxContains", ref "#/$defs/nonNegativeInteger"),
      ("maxItems", ref "#/$defs/nonNegativeInteger"),
      ("maxLength", ref "#/$defs/nonNegativeInteger"),
      ("maxProperties", ref "#/$defs/nonNegativeInteger"),
      ("maximum", typed "number"),
      ("minContains", .obj [("$ref", .str "#/$defs/nonNegativeInteger"), ("default", .num (.int 1))]),
      ("minItems", ref "#/$defs/nonNegativeIntegerDefault0"),
      ("minLength", ref "#/$defs/nonNegativeIntegerDefault0"),
      ("minProperties", ref "#/$defs/nonNegativeIntegerDefault0"),
      ("minimum", typed "number"),
      ("multipleOf", .obj [("exclusiveMinimum", .num (.int 0)), ("type", .str "number")]),
      ("pattern", .obj [("format", .str "regex"), ("type", .str "string")]),
      ("required", ref "#/$defs/stringArray"),
      ("type", .obj [
          ("anyOf", .arr [
              ref "#/$defs/simpleTypes",
              .obj [
                ("items", ref "#/$defs/simpleTypes"),
                ("minItems", .num (.int 1)),
                ("type", .str "array"),
                ("uniqueItems", .bool true)]])]),
      ("uniqueItems", .obj [("default", .bool false), ("type", .str "boolean")])]),
  ("title", .str "Validation vocabulary meta-schema"),
  ("type", texts ["object", "boolean"])]

/-- Keywords that describe a value. -/
def Draft2020.metaData : Json := .obj [
  ("$dynamicAnchor", .str "meta"),
  ("$id", .str (Draft.draft2020.file "meta/meta-data")),
  ("$schema", .str (Draft.draft2020.file "schema")),
  ("$vocabulary", .obj [(Draft.draft2020.file "vocab/meta-data", .bool true)]),
  ("properties", .obj [
      ("default", .bool true),
      ("deprecated", .obj [("default", .bool false), ("type", .str "boolean")]),
      ("description", typed "string"),
      ("examples", .obj [("items", .bool true), ("type", .str "array")]),
      ("readOnly", .obj [("default", .bool false), ("type", .str "boolean")]),
      ("title", typed "string"),
      ("writeOnly", .obj [("default", .bool false), ("type", .str "boolean")])]),
  ("title", .str "Meta-data vocabulary meta-schema"),
  ("type", texts ["object", "boolean"])]

/-- The keyword for the form of a text. -/
def Draft2020.format : Json := .obj [
  ("$dynamicAnchor", .str "meta"),
  ("$id", .str (Draft.draft2020.file "meta/format-annotation")),
  ("$schema", .str (Draft.draft2020.file "schema")),
  ("$vocabulary", .obj [(Draft.draft2020.file "vocab/format-annotation", .bool true)]),
  ("properties", .obj [("format", typed "string")]),
  ("title", .str "Format vocabulary meta-schema for annotation results"),
  ("type", texts ["object", "boolean"])]

/-- Keywords for texts that hold other data. -/
def Draft2020.content : Json := .obj [
  ("$dynamicAnchor", .str "meta"),
  ("$id", .str (Draft.draft2020.file "meta/content")),
  ("$schema", .str (Draft.draft2020.file "schema")),
  ("$vocabulary", .obj [(Draft.draft2020.file "vocab/content", .bool true)]),
  ("properties", .obj [
      ("contentEncoding", typed "string"),
      ("contentMediaType", typed "string"),
      ("contentSchema", .obj [("$dynamicRef", .str "#meta")])]),
  ("title", .str "Content vocabulary meta-schema"),
  ("type", texts ["object", "boolean"])]

end ModelForge.Grammar.Standard
