/-!
Sets of code points as increasing lists of ranges, and the short notation in which tables of them
are kept: hexadecimal numbers, with a dash between the ends of a range, and a stroke and a two
behind a range of which only every second code point is meant.
-/

namespace ModelForge.Text

/-- Inclusive ranges of code points. -/
abbrev Ranges := List (Nat × Nat)

namespace Ranges

/-- Whether a code point is in one of the ranges; none behind it has to be looked at. -/
def contains : Ranges → Nat → Bool
  | [], _ => false
  | (low, high) :: rest, n => if n < low then false else n ≤ high || contains rest n

/-- Brings ranges in increasing order together where they touch. -/
def joined (rs : Ranges) : Ranges :=
  (rs.foldl (fun before (low, high) =>
    match before with
    | (first, last) :: more => if low ≤ last + 1 then (first, max last high) :: more else (low, high) :: before
    | [] => [(low, high)]) []).reverse

/-- The code points of either set. -/
def union (a b : Ranges) : Ranges := joined (a.merge b fun x y => decide (x.1 ≤ y.1))

/-- What lies between the ranges from some code point on, up to the last code point. -/
def between : Nat → Ranges → Ranges
  | start, [] => if start ≤ 0x10FFFF then [(start, 0x10FFFF)] else []
  | start, (low, high) :: rest =>
    if start < low then (start, low - 1) :: between (high + 1) rest else between (high + 1) rest

def complement (a : Ranges) : Ranges := between 0 (joined a)

def intersection (a b : Ranges) : Ranges := complement (union (complement a) (complement b))

/-- Code points that no text contains. -/
def surrogates : Ranges := [(0xD800, 0xDFFF)]

def digitValue (c : Char) : Nat := if c.isDigit then c.toNat - 48 else c.toNat - 55

def hexNumber (ds : List Char) : Nat := ds.foldl (fun n c => 16 * n + digitValue c) 0

/-- Every second code point of a range. -/
def everySecond (low high : Nat) : Ranges :=
  (List.range ((high - low) / 2 + 1)).map fun i => (low + 2 * i, low + 2 * i)

/-- What one word of the notation stands for. -/
def ofWord (word : List Char) : Ranges :=
  let low := word.takeWhile Char.isAlphanum
  let rest := word.drop (low.length + 1)
  let high := rest.takeWhile Char.isAlphanum
  if rest = [] then [(hexNumber low, hexNumber low)]
  else if high.length < rest.length then everySecond (hexNumber low) (hexNumber high)
  else [(hexNumber low, hexNumber high)]

/-- The words of a text with spaces and line ends between them. -/
def words : List Char → List (List Char)
  | [] => []
  | c :: rest =>
    if c = ' ' || c = '\n' then [] :: words rest
    else
      match words rest with
      | [] => [[c]]
      | word :: more => (c :: word) :: more

/-- Reads the notation. -/
def ofText (s : String) : Ranges := ((words s.toList).filter (· ≠ [])).flatMap ofWord

end Ranges

end ModelForge.Text
