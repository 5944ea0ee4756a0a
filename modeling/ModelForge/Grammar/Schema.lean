import ModelForge.Grammar.Form
/-!
Schemas: what a grammar asks of a value. A schema is a list of keywords, all of which have to
hold. Some keywords are checks of the value alone; the others apply further schemas, to the same
value or to parts of it. A link names a schema that a grammar looks up, so that schemas stay finite
where grammars are recursive.
-/

namespace ModelForge.Grammar

/-- The kinds of values that a schema can ask for, in the order of their names. -/
inductive Kind
  | array
  | boolean
  | integer
  | null
  | number
  | object
  | string
  deriving DecidableEq, Repr

namespace Kind

def all : List Kind := [array, boolean, integer, null, number, object, string]

def name : Kind → String
  | array => "array"
  | boolean => "boolean"
  | integer => "integer"
  | null => "null"
  | number => "number"
  | object => "object"
  | string => "string"

def ofName? (s : String) : Option Kind := all.find? (·.name == s)

/-- Whether a value is of a kind. A number without a fraction is an integer however written. -/
def admits : Kind → Json → Bool
  | array, .arr _ => true
  | boolean, .bool _ => true
  | integer, .num n => n.isWhole
  | null, .null => true
  | number, .num _ => true
  | object, .obj _ => true
  | string, .str _ => true
  | _, _ => false

/-- As `admits`, but an integer has to be written as one. -/
def admitsWritten (k : Kind) (v : Json) : Bool :=
  match k with
  | integer => v.asInt?.isSome
  | k => k.admits v

end Kind

/-- What can be asked of a value without looking at schemas for its parts. -/
inductive Check
  | kind (kinds : List Kind)
  /-- As `kind`, but an integer has to be written as one. -/
  | writtenKind (kinds : List Kind)
  | const (expected : Json)
  | enum (choices : List Json)
  | minLength (least : Nat)
  | maxLength (most : Nat)
  | pattern (text : String) (matcher : Matcher)
  | form (form : Form)
  /-- A text has to be bytes in a notation, or of a type, or both. -/
  | encoded (encoding : String)
  | content (mediaType : String)
  | encodedContent (encoding mediaType : String)
  | minimum (limit : Number)
  | maximum (limit : Number)
  | exclusiveMinimum (limit : Number)
  | exclusiveMaximum (limit : Number)
  | multipleOf (step : Decimal.Binary64)
  | minItems (least : Nat)
  | maxItems (most : Nat)
  | uniqueItems
  /-- No item is allowed from a position on. -/
  | noAdditionalItems (start : Nat)
  /-- No value is allowed, since no item is and additional ones are spoken of. -/
  | noValue
  | minProperties (least : Nat)
  | maxProperties (most : Nat)
  | required (names : List String)
  /-- The presence of a name requires others. -/
  | dependentRequired (names : List (String × List String))
  /-- No member is allowed at all. -/
  | noProperties

namespace Check

/-- The name of the keyword. -/
def keyword : Check → String
  | kind _ => "type"
  | writtenKind _ => "type"
  | const _ => "const"
  | enum _ => "enum"
  | minLength _ => "minLength"
  | maxLength _ => "maxLength"
  | pattern _ _ => "pattern"
  | form _ => "format"
  | encoded _ => "contentEncoding"
  | content _ => "contentMediaType"
  | encodedContent _ _ => "contentMediaType"
  | minimum _ => "minimum"
  | maximum _ => "maximum"
  | exclusiveMinimum _ => "exclusiveMinimum"
  | exclusiveMaximum _ => "exclusiveMaximum"
  | multipleOf _ => "multipleOf"
  | minItems _ => "minItems"
  | maxItems _ => "maxItems"
  | uniqueItems => "uniqueItems"
  | noAdditionalItems _ => "additionalItems"
  | noValue => "additionalItems"
  | minProperties _ => "minProperties"
  | maxProperties _ => "maxProperties"
  | required _ => "required"
  | dependentRequired _ => "dependentRequired"
  | noProperties => "additionalProperties"

end Check

mutual

inductive Schema
  /-- Every value, and no value at all. -/
  | always
  | never
  | all (keywords : List Keyword)
  /-- The schema that a grammar keeps under a name. -/
  | link (target : String)

inductive Keyword
  | check (c : Check)
  /-- The schema that a reference leads to; the keyword is how the reference is written. -/
  | reference (keyword : String) (schema : Schema)
  | allOf (branches : List Schema)
  | anyOf (branches : List Schema)
  | oneOf (branches : List Schema)
  /-- The schema must not hold; its text is quoted where it does. -/
  | negation (schema : Schema) (text : String)
  | conditional (condition consequent alternative : Schema)
  /-- A schema for each of the first items. The others may count as looked at too. -/
  | firstItems (keyword : String) (schemas : List Schema) (takesAll : Bool)
  /-- A schema for the items from a position on. -/
  | items (keyword : String) (start : Nat) (schema : Schema)
  | contains (schema : Schema) (least most : Option Nat)
  | properties (known : List (String × Schema))
  | patternProperties (matching : List (String × Matcher × Schema))
  /-- The members with known names, those that match patterns, and all others, which either have a
  schema of their own or are not allowed. -/
  | additionalProperties (known : List (String × Schema)) (matching : List (String × Matcher × Schema))
      (others : Option Schema)
  | propertyNames (schema : Schema)
  /-- The presence of a name asks for a schema. -/
  | dependentSchemas (schemas : List (String × Schema))
  /-- The presence of a name asks for other names or for a schema. -/
  | dependencies (entries : List (String × (List String ⊕ Schema)))
  | unevaluatedItems (schema : Schema)
  | unevaluatedProperties (schema : Schema)

end

instance : Inhabited Schema := ⟨.always⟩

namespace Schema

/-- Whether the schema is more than one word. -/
def isObject : Schema → Bool
  | all _ => true
  | _ => false

end Schema

/-- Schemas, one of which is the root, and those that links lead to. -/
structure Schemas where
  root    : Schema
  targets : List (String × Schema)
  /-- At least the number of all schemas. -/
  size    : Nat

namespace Schemas

/-- The schema that a link leads to. -/
def target (g : Schemas) (name : String) : Schema := (Keyed.find? name g.targets).getD .always

end Schemas

end ModelForge.Grammar
