import ModelForge.Pattern.Ends
/-!
Whether a pattern that is not hard matches somewhere. Which way is preferred does not matter for that,
so all places are followed at once: a pattern leads from a set of places to the set of those at which
matches from them end.
-/

namespace ModelForge.Pattern

open Text (Chars)

namespace Trail

/-- Adds those of some places that are new, and tells which ones they are. -/
def advance (t : Trail) (places : List Nat) : Trail × List Nat :=
  let after := places.foldl add t
  (after, after.places.take (after.places.length - t.places.length))

end Trail

/-- The places after exactly so many steps. A set that a step leads back to stays as it is. -/
def stepsTogether (next : List Nat → List Nat) : Nat → List Nat → List Nat
  | 0, places => places
  | n + 1, places =>
    let after := next places
    if after = places then places else stepsTogether next n after

/-- The places after at most so many further steps; each place is left from once. -/
def spread (next : List Nat → List Nat) : Nat → Option Nat → Trail → List Nat → Trail
  | 0, _, t, _ => t
  | fuel + 1, left, t, frontier =>
    if frontier.isEmpty || left = some 0 then t
    else
      let (t, frontier) := t.advance (next frontier)
      spread next fuel (left.map (· - 1)) t frontier

/-- The places after at least and at most so many steps in a text of some size. -/
def repeatedReach (next : List Nat → List Nat) (size least : Nat) (most : Option Nat) (places : List Nat) :
    List Nat :=
  let (t, frontier) := Trail.advance {} (stepsTogether next least places)
  (spread next (size + 1) (most.map (· - least)) t frontier).places

mutual

/-- The places at which matches from some places end. -/
def reach (text : Chars) : Pattern → List Nat → List Nat
  | empty, places => places
  | one set, places => (places.filter fun p => (text[p]?).any set.contains).map (· + 1)
  | assertion a, places => places.filter fun p => Assertion.holds text p a
  | seq parts, places => reachOfAll text parts places
  | alt branches, places => distinct (reachOfAny text branches places)
  | group _ a, places => reach text a places
  | repeated a least most _, places => repeatedReach (reach text a) text.size least most places
  | _, _ => []

/-- The places behind several patterns in a row. -/
def reachOfAll (text : Chars) : List Pattern → List Nat → List Nat
  | [], places => places
  | a :: rest, places => reachOfAll text rest (reach text a places)

/-- The places behind each of several patterns. -/
def reachOfAny (text : Chars) : List Pattern → List Nat → List Nat
  | [], _ => []
  | a :: rest, places => reach text a places ++ reachOfAny text rest places

end

/-- Whether a pattern that is not hard matches somewhere in a text. -/
def occurs (a : Pattern) (text : Chars) : Bool := !(a.reach text (List.range (text.size + 1))).isEmpty

end ModelForge.Pattern
