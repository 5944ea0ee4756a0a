import ModelForge.Grammar.Problem
import ModelForge.Json.Parser
import ModelForge.Text.Base64
/-!
Checks of one value. Each keyword concerns values of its own kind only and is silent about all
others.
-/

namespace ModelForge

namespace Decimal.Binary64

/-- One over `2 ^ 52`: the step between one and the next larger number. -/
def isBelowEpsilon (x : Binary64) : Bool := x.compareRatio 1 (Nat.pow 2 52) == .lt

/-- Whether two numbers differ by less than the step behind one. -/
def isNear (x y : Binary64) : Bool :=
  let sign (z : Binary64) : Int := if z.negative then -1 else 1
  let left : Int := sign x * x.numerator * y.denominator
  let right : Int := sign y * y.numerator * x.denominator
  match round false (left - right).natAbs (x.denominator * y.denominator) with
  | some gap => gap.isBelowEpsilon
  | none => false

/-- What stands behind the point, with the number's sign. -/
def fraction (x : Binary64) : Binary64 :=
  (round x.negative (x.numerator % x.denominator) x.denominator).getD x

/-- Whether a number is a multiple of another. A whole step is tested exactly, and zero has no
multiples; for any other step the quotient is rounded first, and counts as whole if hardly anything
above zero stands behind its point. Where the quotient is beyond all numbers, the shortest decimals
decide. -/
def isMultipleOf (x step : Binary64) : Bool :=
  if step.isWhole then
    x.isWhole && !step.isZero && x.numerator / x.denominator % (step.numerator / step.denominator) = 0
  else
    match x.div step with
    | some q => q.fraction.isBelowEpsilon
    | none =>
      let a := x.shortest
      let b := step.shortest
      let e := a.exponent - b.exponent
      a.digits * Nat.pow 10 e.toNat % (b.digits * Nat.pow 10 (-e).toNat) = 0

end Decimal.Binary64

namespace Number

/-- The nearest floating-point number. -/
def toBinary64 : Number → Decimal.Binary64
  | .int n => (Decimal.Binary64.round (n < 0) n.natAbs 1).getD (.zero false)
  | .real x => x

end Number

namespace Grammar

/-- Whether two items of a list are equal. -/
def hasRepeated : List Json → Bool
  | [] => false
  | x :: rest => rest.any x.same || hasRepeated rest

/-- Whether a value is the expected constant; numbers may differ by what rounding adds. -/
def isConst (expected value : Json) : Bool :=
  match expected, value with
  | .num m, .num n => m.toBinary64.isNear n.toBinary64
  | _, _ => expected.same value

def problemIf (broken : Bool) (p : Problem) : List Problem := if broken then [p] else []

/-- A problem for each name that a list of members lacks. -/
def missingFrom (members : List (String × Json)) (names : List String) : List Problem :=
  (names.filter fun n => !Keyed.contains n members).map .missing

namespace Check

def ofNumber (n : Number) (v : Json) : Check → List Problem
  | minimum limit => problemIf (n.compare limit == .lt) (.belowMinimum v limit)
  | maximum limit => problemIf (n.compare limit == .gt) (.aboveMaximum v limit)
  | exclusiveMinimum limit => problemIf (n.compare limit != .gt) (.notAboveMinimum v limit)
  | exclusiveMaximum limit => problemIf (n.compare limit != .lt) (.notBelowMaximum v limit)
  | multipleOf step => problemIf (!n.toBinary64.isMultipleOf step) (.notMultiple v step)
  | _ => []

/-- The type of content that can be told from the text. -/
def isContent (text : String) : Bool :=
  match Json.parse text with
  | .ok _ => true
  | .error _ => false

def ofString (s : String) (v : Json) : Check → List Problem
  | minLength least => problemIf (s.length < least) (.tooShort v least)
  | maxLength most => problemIf (s.length > most) (.tooLong v most)
  | pattern text m =>
    match m.search s with
    | .found => []
    | .absent => [.noMatch v text]
    | .exhausted => [.searchGivenUp]
  | form f => problemIf (!f.admits s) (.notInForm v f)
  | encoded name => problemIf (Text.Base64.decode? s.toList).isNone (.notEncoded v name)
  | content name => problemIf (!isContent s) (.notContent v name)
  | encodedContent encoding mediaType =>
    match (Text.Base64.decode? s.toList).map Text.Utf8.decode with
    | none => [.notEncoded v encoding]
    | some (.error cause) => [.notText cause]
    | some (.ok text) => problemIf (!isContent (String.ofList text)) (.notContent v mediaType)
  | _ => []

def ofItems (items : List Json) (v : Json) : Check → List Problem
  | minItems least => problemIf (items.length < least) (.tooFewItems v least)
  | maxItems most => problemIf (items.length > most) (.tooManyItems v most)
  | uniqueItems => problemIf (hasRepeated items) (.repeatedItems v)
  | noAdditionalItems start =>
    problemIf (items.length > start) (.additionalItems ((items.drop start).map Json.compact))
  | _ => []

def ofMembers (members : List (String × Json)) (v : Json) : Check → List Problem
  | minProperties least => problemIf (members.length < least) (.tooFewProperties v least)
  | maxProperties most => problemIf (members.length > most) (.tooManyProperties v most)
  | required names => missingFrom members names
  | dependentRequired entries =>
    (entries.filter fun e => Keyed.contains e.1 members).flatMap fun e => missingFrom members e.2
  | noProperties =>
    match members with
    | [] => []
    | (_, first) :: _ => [.neverAllowed first]
  | _ => []

def ofKind (v : Json) : Json → Check → List Problem
  | .num n, c => ofNumber n v c
  | .str s, c => ofString s v c
  | .arr items, c => ofItems items v c
  | .obj members, c => ofMembers members v c
  | _, _ => []

/-- Where a problem is found, below the place of the schema. -/
def placeOf (c : Check) (place : Place) : Problem → Place
  | .notEncoded _ _ => place.under "contentEncoding"
  | .notText _ => {}
  | _ => place.under c.keyword

/-- What is wrong with a value. -/
def problems (c : Check) (v : Json) : List Problem :=
  match c with
  | kind kinds => problemIf (!kinds.any (·.admits v)) (.wrongKind v kinds)
  | writtenKind kinds => problemIf (!kinds.any (·.admitsWritten v)) (.wrongKind v kinds)
  | const expected => problemIf (!isConst expected v) (.notConst expected)
  | noValue => [.neverAllowed v]
  | enum choices => problemIf (!choices.any (·.same v)) (.notInEnum v choices)
  | c => ofKind v v c

def findings (c : Check) (place : Place) (v : Json) : List Finding :=
  (c.problems v).map fun p => ⟨c.placeOf place p, p⟩

end Check

end Grammar

end ModelForge
