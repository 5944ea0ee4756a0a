import ModelForge.Pattern.Basic
import ModelForge.Text.Utf8
/-!
The space that a pattern takes when its states are laid out in a table, which is limited. The table
works on bytes: a set of characters has a state for each beginning of the bytes of its characters.
-/

namespace ModelForge.Pattern

namespace Bytewise

/-- The last code points that are written with one, two and three bytes. -/
def sizeEnds : List Nat := [0x7F, 0x7FF, 0xFFFF]

/-- Where to cut a range so that each part has as many bytes for all its characters, or so that all of
some last bytes stand behind equal first ones. -/
def cut? (low high : Nat) : Option Nat :=
  let aligned (bits : Nat) : Option Nat :=
    let width := Nat.pow 2 bits
    if low / width = high / width then none
    else if low % width ≠ 0 then some (low - low % width + width - 1)
    else if high % width ≠ width - 1 then some (high - high % width - 1)
    else none
  (sizeEnds.find? fun e => decide (low ≤ e) && decide (e < high)) <|>
    (if high ≤ 0x7F then none else aligned 6 <|> aligned 12 <|> aligned 18)

/-- The bytes of all characters in a range, as rows of ranges of bytes. -/
def rows : Nat → Nat → Nat → List (List (UInt8 × UInt8))
  | 0, _, _ => []
  | fuel + 1, low, high =>
    match cut? low high with
    | some m => rows fuel low m ++ rows fuel (m + 1) high
    | none => [(Text.Utf8.encode [Char.ofNat low]).zip (Text.Utf8.encode [Char.ofNat high])]

/-- How many elements two rows begin with in common. -/
def common : List (UInt8 × UInt8) → List (UInt8 × UInt8) → Nat
  | a :: as, b :: bs => if a = b then common as bs + 1 else 0
  | _, _ => 0

/-- The number of different beginnings of rows in increasing order. -/
def beginnings : List (List (UInt8 × UInt8)) → Nat
  | [] => 0
  | [row] => row.length
  | row :: next :: rest => row.length - common row next + beginnings (next :: rest)

/-- The space for a set of characters. A range is cut fewer times than the bound says. -/
def weight (rs : Text.Ranges) : Nat :=
  let rows := (rs.intersection Text.Ranges.surrogates.complement).flatMap fun (low, high) => rows 64 low high
  32 * (beginnings rows + 2) + 4 * rows.length

end Bytewise

/-- The space that a set of characters takes. -/
def setWeight (set : CharSet) : Nat :=
  let rs := Text.Ranges.joined set.toRanges
  match rs with
  | [(low, high)] =>
    if low = high then 32 * (Char.ofNat low).utf8Size else if high < 128 then 72 else Bytewise.weight rs
  | _ => if set.isAscii then 64 + 8 * rs.length else Bytewise.weight rs

mutual

/-- The space that a pattern takes, in bytes. -/
def weight : Pattern → Nat
  | one set => setWeight set
  | seq parts => weightSum parts
  | alt branches => weightSum branches + 64 + 4 * branches.length
  | group _ a => weight a + 64
  | repeated a least most _ =>
    match most with
    | none => weight a * max least 1 + 64
    | some most => weight a * least + (weight a + 40) * (most - least) + 32
  | _ => 32

def weightSum : List Pattern → Nat
  | [] => 0
  | a :: rest => weight a + weightSum rest

end

mutual

/-- Whether no repetition asks for more than it allows. -/
def boundsAgree : Pattern → Bool
  | seq parts => allBoundsAgree parts
  | alt branches => allBoundsAgree branches
  | group _ a => boundsAgree a
  | repeated a least most _ => most.all (least ≤ ·) && boundsAgree a
  | _ => true

def allBoundsAgree : List Pattern → Bool
  | [] => true
  | a :: rest => boundsAgree a && allBoundsAgree rest

end

/-- The space that a table of states may take. -/
def weightLimit : Nat := 10 * Nat.pow 2 20

/-- Whether a pattern that is not hard can be laid out in a table of states. -/
def fits (a : Pattern) : Bool := a.boundsAgree && a.weight ≤ weightLimit

end ModelForge.Pattern
