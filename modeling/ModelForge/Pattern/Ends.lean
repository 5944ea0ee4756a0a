import ModelForge.Pattern.Basic
/-!
Where matches end. A place in a text is the number of characters before it. From a place, a
pattern that is not hard ends at some places, and those it prefers come first.
-/

namespace ModelForge

/-- A text with its characters by position. -/
abbrev Text.Chars := Array Char

namespace Pattern

open Text (Chars)

def isWordAt (text : Chars) (p : Nat) : Bool := (text[p]?).any CharSet.word.contains

/-- Whether a word character stands right before a place. -/
def isWordBefore (text : Chars) (p : Nat) : Bool := 0 < p && isWordAt text (p - 1)

def Assertion.holds (text : Chars) (p : Nat) : Assertion → Bool
  | .startOfText => p = 0
  | .endOfText => p = text.size
  | .startOfLine => p = 0 || text[p - 1]? = some '\n'
  | .endOfLine => p = text.size || text[p]? = some '\n'
  | .wordBoundary present => (isWordBefore text p != isWordAt text p) == present
  | .startOfWord => !isWordBefore text p && isWordAt text p
  | .endOfWord => isWordBefore text p && !isWordAt text p

/-- Places in the order in which they were met, each once. -/
structure Trail where
  /-- The places by the bits of a number. -/
  marks  : Nat := 0
  /-- The last place first. -/
  places : List Nat := []

namespace Trail

def add (t : Trail) (p : Nat) : Trail :=
  if t.marks.testBit p then t else ⟨t.marks ||| (1 <<< p), p :: t.places⟩

def toList (t : Trail) : List Nat := t.places.reverse

end Trail

/-- The places without repetitions. -/
def distinct (places : List Nat) : List Nat := (places.foldl Trail.add {}).toList

/-- The places after exactly so many steps. -/
def steps (next : Nat → List Nat) : Nat → List Nat → List Nat
  | 0, places => places
  | n + 1, places => if places.isEmpty then [] else steps next n (distinct (places.flatMap next))

/-- How far a repetition has been followed. -/
structure Walk where
  /-- The pairs of a place and the number of repetitions left that have been looked at. -/
  seen : Nat := 0
  ends : Trail := {}

namespace Walk

def arrive (w : Walk) (p : Nat) : Walk := { w with ends := w.ends.add p }

/-- Follows further repetitions, at most so many if a bound is given. One that takes nothing is
the last. -/
def follow (next : Nat → List Nat) (greedy : Bool) (width : Nat) : Nat → Option Nat → Nat → Walk → Walk
  | 0, _, p, w => w.arrive p
  | fuel + 1, left, p, w =>
    let key := left.getD 0 * width + p
    if w.seen.testBit key then w
    else
      let w := { w with seen := w.seen ||| (1 <<< key) }
      if left = some 0 then w.arrive p
      else
        let w := if greedy then w else w.arrive p
        let w := (next p).foldl
          (fun w q => if q ≤ p then w.arrive p else follow next greedy width fuel (left.map (· - 1)) q w) w
        w.arrive p

end Walk

/-- The places after at least and at most so many steps from a place in a text of some size. -/
def repeatedEnds (next : Nat → List Nat) (size least : Nat) (most : Option Nat) (greedy : Bool) (p : Nat) :
    List Nat :=
  let left := most.map fun m => min (m - least) (size + 1)
  ((steps next least [p]).foldl (fun w q => Walk.follow next greedy (size + 1) (size + 1) left q w)
    ({} : Walk)).ends.toList

mutual

/-- The places at which a match from a place ends, the preferred ones first. -/
def ends (text : Chars) : Pattern → Nat → List Nat
  | empty, p => [p]
  | one set, p => if (text[p]?).any set.contains then [p + 1] else []
  | assertion a, p => if Assertion.holds text p a then [p] else []
  | seq parts, p => endsOfAll text parts p
  | alt branches, p => distinct (endsOfAny text branches p)
  | group _ a, p => ends text a p
  | repeated a least most greedy, p => repeatedEnds (ends text a) text.size least most greedy p
  | _, _ => []

/-- The ends of several patterns in a row. -/
def endsOfAll (text : Chars) : List Pattern → Nat → List Nat
  | [], p => [p]
  | a :: rest, p => distinct ((ends text a p).flatMap (endsOfAll text rest))

/-- The ends of each of several patterns. -/
def endsOfAny (text : Chars) : List Pattern → Nat → List Nat
  | [], _ => []
  | a :: rest, p => ends text a p ++ endsOfAny text rest p

end

end Pattern

end ModelForge
