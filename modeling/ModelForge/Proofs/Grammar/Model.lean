import ModelForge.Grammar.Schema

-- What a well-formed model is, told without any schema.

namespace ModelForge.Json

open Grammar (Kind)

def IsText (v : Json) : Prop := ∃ s, v = .str s

def IsNonEmptyText (v : Json) : Prop := ∃ s, v = .str s ∧ s ≠ ""

def IsBool (v : Json) : Prop := ∃ b, v = .bool b

def IsNumber (v : Json) : Prop := ∃ n, v = .num n

-- A natural number, however it is written.
def IsCount (v : Json) : Prop := ∃ n, v = .num n ∧ ∃ k : Nat, n.same (.int k)

def IsArray (v : Json) : Prop := ∃ items, v = .arr items

def IsNonEmptyArray (v : Json) : Prop := ∃ items, v = .arr items ∧ items ≠ []

def IsPrimitive (v : Json) : Prop := ∃ k : Kind, v = .str k.name

-- One primitive name, or several different ones.
inductive IsTypeSpec : Json → Prop
  | one (k : Kind) : IsTypeSpec (.str k.name)
  | several {ks : List Kind} (some : ks ≠ []) (different : ks.Nodup) :
    IsTypeSpec (.arr <| ks.map (.str ·.name))

def IsRequiredList (v : Json) : Prop :=
  ∃ names : List String, v = .arr (names.map .str) ∧ names.Nodup ∧ ∀ name ∈ names, name ≠ ""

-- The members of an object under a name are as told, if there are any.
def WherePresent (members : List (String × Json)) (name : String) (P : Json → Prop) : Prop :=
  ∀ x, Keyed.find? name members = some x → P x

def IsPresent (members : List (String × Json)) (name : String) : Prop :=
  ∃ x, Keyed.find? name members = some x

mutual

inductive IsNode : Json → Prop
  | obj {members : List (String × Json)}
    (typed : ∃ name ∈ ["type", "$ref", "enum", "const", "oneOf", "anyOf", "allOf"], IsPresent members name)
    (type : WherePresent members "type" IsTypeSpec)
    (texts : ∀ name ∈ ["title", "description", "format", "pattern"], WherePresent members name IsText)
    (reference : WherePresent members "$ref" IsNonEmptyText)
    (enum : WherePresent members "enum" IsNonEmptyArray)
    (examples : WherePresent members "examples" IsArray)
    (properties : WherePresent members "properties" IsPropertyMap)
    (required : WherePresent members "required" IsRequiredList)
    (additional : WherePresent members "additionalProperties" IsAdditional)
    (items : WherePresent members "items" IsNode)
    (combinations : ∀ name ∈ ["oneOf", "anyOf", "allOf"], WherePresent members name IsNodeList)
    (bounds : ∀ name ∈ ["minimum", "maximum"], WherePresent members name IsNumber)
    (counts : ∀ name ∈ ["minLength", "maxLength", "minItems", "maxItems"], WherePresent members name IsCount) :
    IsNode (.obj members)

inductive IsPropertyMap : Json → Prop
  | obj {members : List (String × Json)} (nodes : ∀ m ∈ members, IsNode m.2) : IsPropertyMap (.obj members)

inductive IsNodeList : Json → Prop
  | arr {items : List Json} (some : items ≠ []) (nodes : ∀ x ∈ items, IsNode x) : IsNodeList (.arr items)

inductive IsAdditional : Json → Prop
  | bool {b : Bool} : IsAdditional (.bool b)
  | node {v : Json} (node : IsNode v) : IsAdditional v

end

-- What types are generated from: an object type, told by its properties.
inductive IsModel : Json → Prop
  | obj {members : List (String × Json)}
    (type : Keyed.find? "type" members = some (.str "object"))
    (properties : ∃ x, Keyed.find? "properties" members = some x ∧ IsPropertyMap x)
    (texts : ∀ name ∈ ["$schema", "$id", "description"], WherePresent members name IsText)
    (title : WherePresent members "title" IsNonEmptyText)
    (definitions : ∀ name ∈ ["definitions", "$defs"], WherePresent members name IsPropertyMap)
    (required : WherePresent members "required" IsRequiredList)
    (additional : WherePresent members "additionalProperties" IsAdditional) :
    IsModel (.obj members)

end ModelForge.Json
