import ModelForge.Grammar.Schema
import ModelForge.Json.Pointer
import ModelForge.Text.Utf8
import ModelForge.Violation
/-!
What can be wrong with a value, how it is worded, and where it is found. Values are quoted in
their compact form.
-/

namespace ModelForge.Grammar

/-- The ways in which a value breaks a keyword. -/
inductive Problem
  | neverAllowed (value : Json)
  | wrongKind (value : Json) (kinds : List Kind)
  | notConst (expected : Json)
  | notInEnum (value : Json) (choices : List Json)
  | tooShort (value : Json) (least : Nat)
  | tooLong (value : Json) (most : Nat)
  | noMatch (value : Json) (pattern : String)
  /-- The search for a pattern was given up. -/
  | searchGivenUp
  | notInForm (value : Json) (form : Form)
  | notEncoded (value : Json) (encoding : String)
  | notContent (value : Json) (mediaType : String)
  /-- Bytes that should hold a text do not. -/
  | notText (cause : Text.Utf8.Invalid)
  | belowMinimum (value : Json) (limit : Number)
  | aboveMaximum (value : Json) (limit : Number)
  | notAboveMinimum (value : Json) (limit : Number)
  | notBelowMaximum (value : Json) (limit : Number)
  | notMultiple (value : Json) (step : Decimal.Binary64)
  | tooFewItems (value : Json) (least : Nat)
  | tooManyItems (value : Json) (most : Nat)
  | repeatedItems (value : Json)
  | tooFewProperties (value : Json) (least : Nat)
  | tooManyProperties (value : Json) (most : Nat)
  | missing (name : String)
  | noneOf (value : Json) (keyword : String)
  | severalOf (value : Json) (keyword : String)
  | excluded (value : Json) (schema : String)
  | notContained (value : Json)
  | additionalItems (items : List String)
  | additional (names : List String)
  | unevaluatedItems (items : List String)
  | unevaluatedProperties (names : List String)

namespace Problem

/-- A noun behind a number. -/
def counted (n : Nat) (one many : String) : String := toString n ++ " " ++ if n = 1 then one else many

/-- Things in a row with the verb they need. -/
def wereUnexpected (things : List String) : String :=
  ", ".intercalate things ++ if things.length = 1 then " was unexpected" else " were unexpected"

def quoted (names : List String) : List String := names.map fun n => "'" ++ n ++ "'"

/-- A positional decimal without an exponent, however large or small, and whole numbers plain. -/
def plain (x : Decimal.Binary64) : String :=
  let digits := x.shortest
  let whole := toString digits.digits ++ Decimal.Layout.zeros digits.exponent.toNat
  (if x.negative then "-" else "") ++
    if x.isWhole then whole else Decimal.Layout.write ⟨-400, 400, true⟩ digits

def kindNames (kinds : List Kind) : String :=
  ", ".intercalate ((Kind.all.filter (kinds.contains ·)).map fun k => Json.quote k.name)

def wrongKindMessage (value : Json) (kinds : List Kind) : String :=
  match kinds with
  | [k] => value.compact ++ " is not of type " ++ Json.quote k.name
  | _ => value.compact ++ " is not of types " ++ kindNames kinds

def message : Problem → String
  | neverAllowed v => "False schema does not allow " ++ v.compact
  | wrongKind v kinds => wrongKindMessage v kinds
  | notConst expected => expected.compact ++ " was expected"
  | notInEnum v choices => v.compact ++ " is not one of " ++ (Json.arr choices).compact
  | tooShort v n => v.compact ++ " is shorter than " ++ counted n "character" "characters"
  | tooLong v n => v.compact ++ " is longer than " ++ counted n "character" "characters"
  | noMatch v p => v.compact ++ " does not match \"" ++ p ++ "\""
  | searchGivenUp => "Error executing regex: Max limit for backtracking count exceeded"
  | notInForm v f => v.compact ++ " is not a " ++ Json.quote f.name
  | notEncoded v name => v.compact ++ " is not compliant with " ++ Json.quote name ++ " content encoding"
  | notContent v name => v.compact ++ " is not compliant with " ++ Json.quote name ++ " media type"
  | notText cause => cause.message
  | belowMinimum v n => v.compact ++ " is less than the minimum of " ++ n.render
  | aboveMaximum v n => v.compact ++ " is greater than the maximum of " ++ n.render
  | notAboveMinimum v n => v.compact ++ " is less than or equal to the minimum of " ++ n.render
  | notBelowMaximum v n => v.compact ++ " is greater than or equal to the maximum of " ++ n.render
  | notMultiple v step => v.compact ++ " is not a multiple of " ++ plain step
  | tooFewItems v n => v.compact ++ " has less than " ++ counted n "item" "items"
  | tooManyItems v n => v.compact ++ " has more than " ++ counted n "item" "items"
  | repeatedItems v => v.compact ++ " has non-unique elements"
  | tooFewProperties v n => v.compact ++ " has less than " ++ counted n "property" "properties"
  | tooManyProperties v n => v.compact ++ " has more than " ++ counted n "property" "properties"
  | missing name => Json.quote name ++ " is a required property"
  | noneOf v k => v.compact ++ " is not valid under any of the schemas listed in the '" ++ k ++ "' keyword"
  | severalOf v k =>
    v.compact ++ " is valid under more than one of the schemas listed in the '" ++ k ++ "' keyword"
  | excluded v schema => schema ++ " is not allowed for " ++ v.compact
  | notContained v => "None of " ++ v.compact ++ " are valid under the given schema"
  | additionalItems items => "Additional items are not allowed (" ++ wereUnexpected items ++ ")"
  | additional names => "Additional properties are not allowed (" ++ wereUnexpected (quoted names) ++ ")"
  | unevaluatedItems items => "Unevaluated items are not allowed (" ++ wereUnexpected (quoted items) ++ ")"
  | unevaluatedProperties names =>
    "Unevaluated properties are not allowed (" ++ wereUnexpected (quoted names) ++ ")"

end Problem

/-- A part of a document, and the way through the schemas by which it is looked at. -/
structure Place where
  document : Pointer := []
  rule     : Pointer := []
  deriving DecidableEq, Repr

namespace Place

/-- The same part of the document under a keyword. -/
def under (p : Place) (keyword : String) : Place := { p with rule := p.rule ++ [keyword] }

/-- A part one step further down, under the same rule. -/
def down (p : Place) (token : String) : Place := { p with document := p.document ++ [token] }

end Place

structure Finding where
  place   : Place
  problem : Problem

namespace Finding

def violation (f : Finding) : Violation where
  instancePath := f.place.document.text
  schemaPath := f.place.rule.text
  message := f.problem.message

end Finding

end ModelForge.Grammar
