import ModelForge.Keyed
import ModelForge.Decimal.Binary64
/-!
JSON values. A number is an integer or a binary floating-point number, as its text decides; the
members of an object are held in increasing order of their names, each name once.
-/

namespace ModelForge

inductive Number
  | int (value : Int)
  | real (value : Decimal.Binary64)
  deriving DecidableEq, Repr

inductive Json
  | null
  | bool (value : Bool)
  | num (value : Number)
  | str (value : String)
  | arr (items : List Json)
  | obj (members : List (String × Json))
  deriving Repr, Inhabited

namespace Number

/-- The order of the exact values; both zeros are equal. -/
def compare (a b : Number) : Ordering :=
  match a, b with
  | .int m, .int n => Ord.compare m n
  | .int m, .real y => (y.compareRatio m 1).swap
  | .real x, .int n => x.compareRatio n 1
  | .real x, .real y =>
    x.compareRatio ((if y.negative then -1 else 1) * y.numerator) y.denominator

/-- Equality of values: an integer may equal a floating-point number. -/
def same (a b : Number) : Bool := a.compare b == .eq

def isWhole : Number → Bool
  | .int _ => true
  | .real x => x.isWhole

end Number

namespace Json

/-- The member of an object; none for an absent name and for other values. -/
def member? (name : String) : Json → Option Json
  | .obj members => Keyed.find? name members
  | _ => none

def asString? : Json → Option String
  | .str s => some s
  | _ => none

def asInt? : Json → Option Int
  | .num (.int n) => some n
  | _ => none

def asNat? (v : Json) : Option Nat := v.asInt?.bind fun n => if n < 0 then none else some n.toNat

def asBool? : Json → Option Bool
  | .bool b => some b
  | _ => none

def asArray? : Json → Option (List Json)
  | .arr items => some items
  | _ => none

def asObject? : Json → Option (List (String × Json))
  | .obj members => some members
  | _ => none

mutual

/-- Equality of values, in which `1` and `1.0` are one number. -/
def same : Json → Json → Bool
  | .null, .null => true
  | .bool a, .bool b => a == b
  | .num a, .num b => a.same b
  | .str a, .str b => a == b
  | .arr xs, .arr ys => sameItems xs ys
  | .obj xs, .obj ys => sameMembers xs ys
  | _, _ => false

def sameItems : List Json → List Json → Bool
  | [], [] => true
  | x :: xs, y :: ys => same x y && sameItems xs ys
  | _, _ => false

def sameMembers : List (String × Json) → List (String × Json) → Bool
  | [], [] => true
  | (j, x) :: xs, (k, y) :: ys => j == k && same x y && sameMembers xs ys
  | _, _ => false

end

mutual

/-- The number of values on the longest way from the root to a leaf. -/
def depth : Json → Nat
  | .arr items => depthItems items + 1
  | .obj members => depthMembers members + 1
  | _ => 1

def depthItems : List Json → Nat
  | [] => 0
  | x :: xs => max (depth x) (depthItems xs)

def depthMembers : List (String × Json) → Nat
  | [] => 0
  | (_, x) :: xs => max (depth x) (depthMembers xs)

end

end Json

end ModelForge
