import ModelForge.Pattern.CharSet
/-!
Patterns of text: what they are made of, and what can be told of them without a text.
-/

namespace ModelForge

/-- What can be asked of a place in a text without taking a character. -/
inductive Assertion
  | startOfText
  | endOfText
  | startOfLine
  | endOfLine
  | wordBoundary (present : Bool)
  | startOfWord
  | endOfWord
  deriving DecidableEq, Repr

inductive Pattern
  | empty
  | one (set : CharSet)
  | assertion (a : Assertion)
  | seq (parts : List Pattern)
  /-- Earlier branches are preferred. -/
  | alt (branches : List Pattern)
  /-- What a part matches can be asked for again under its number. -/
  | group (number : Nat) (a : Pattern)
  /-- More repetitions are preferred if it is greedy, and fewer if not. -/
  | repeated (a : Pattern) (least : Nat) (most : Option Nat) (greedy : Bool)
  /-- What follows, or what comes before, matches or does not; no character is taken. -/
  | around (ahead present : Bool) (a : Pattern)
  /-- The way in which a part has matched first is not reconsidered. -/
  | atomic (a : Pattern)
  /-- The text that a group has matched, once more. -/
  | again (number : Nat)
  | hasMatched (number : Nat)
  | conditional (condition consequent alternative : Pattern)
  /-- The place where the search began. -/
  | searchStart
  /-- What is reported as matched begins here only. -/
  | reportStart

namespace Pattern

/-- Whether patterns of this kind may be repeated. -/
def isRepeatable : Pattern → Bool
  | empty => false
  | assertion _ => false
  | around _ _ _ => false
  | _ => true

def Assertion.isWordly : Assertion → Bool
  | .wordBoundary _ => true
  | .startOfWord => true
  | .endOfWord => true
  | _ => false

mutual

/-- The least number of characters that a match takes, as far as it is told by the form. -/
def leastSize : Pattern → Nat
  | one _ => 1
  | seq parts => leastSum parts
  | alt branches => leastAny branches
  | group _ a => leastSize a
  | repeated a least _ _ => leastSize a * least
  | atomic a => leastSize a
  | conditional c a b => leastSize c + min (leastSize a) (leastSize b)
  | _ => 0

def leastSum : List Pattern → Nat
  | [] => 0
  | a :: rest => leastSize a + leastSum rest

def leastAny : List Pattern → Nat
  | [] => 0
  | [a] => leastSize a
  | a :: rest => min (leastSize a) (leastAny rest)

end

mutual

/-- Whether all matches take the same number of characters, as far as it is told by the form. -/
def isFixed : Pattern → Bool
  | seq parts => areFixed parts
  | alt branches => areFixed branches && branches.all fun b => b.leastSize = leastAny branches
  | group _ a => isFixed a
  | repeated a least most _ => isFixed a && most = some least
  | atomic a => isFixed a
  | again _ => false
  | conditional c a b =>
    isFixed c && isFixed a && isFixed b && c.leastSize + a.leastSize = b.leastSize
  | _ => true

def areFixed : List Pattern → Bool
  | [] => true
  | a :: rest => isFixed a && areFixed rest

end

mutual

/-- Whether a match can depend on more than the characters from a place on: on what groups have
matched, on what stands around, or on the way taken so far. Groups that are asked for again count
as such. -/
def isHard (referred : List Nat) : Pattern → Bool
  | empty => false
  | one _ => false
  | assertion a => Assertion.isWordly a
  | seq parts => areHard referred parts
  | alt branches => areHard referred branches
  | group n a => referred.contains n || isHard referred a
  | repeated a _ _ _ => isHard referred a
  | _ => true

/-- Whether one of several is hard. -/
def areHard (referred : List Nat) : List Pattern → Bool
  | [] => false
  | a :: rest => isHard referred a || areHard referred rest

end

end Pattern

end ModelForge
