import ModelForge.Text.CaseFold
import ModelForge.Text.Category
import ModelForge.Text.Letters
/-!
Sets of characters, as patterns describe them.
-/

namespace ModelForge

inductive CharSet
  | ranges (rs : Text.Ranges)
  | union (a b : CharSet)
  | intersection (a b : CharSet)
  | complement (a : CharSet)
  /-- All characters that differ from one of the set in case only. -/
  | folded (a : CharSet)
  deriving DecidableEq, Repr

namespace CharSet

def has : CharSet → Nat → Bool
  | ranges rs, n => rs.contains n
  | union a b, n => a.has n || b.has n
  | intersection a b, n => a.has n && b.has n
  | complement a, n => !a.has n
  | folded a, n => (Text.caseVariants n).any a.has

def contains (a : CharSet) (c : Char) : Bool := a.has c.toNat

def nothing : CharSet := ranges []

def range (low high : Char) : CharSet := ranges [(low.toNat, high.toNat)]

def char (c : Char) : CharSet := range c c

def ofList (sets : List CharSet) : CharSet :=
  match sets with
  | [] => nothing
  | [a] => a
  | a :: rest => .union a (ofList rest)

def difference (a b : CharSet) : CharSet := .intersection a (.complement b)

def symmetricDifference (a b : CharSet) : CharSet := .union (a.difference b) (b.difference a)

/-- The set itself, or all differing in case only from one of it. -/
def foldedIf (ignoreCase : Bool) (a : CharSet) : CharSet := if ignoreCase then .folded a else a

def complementIf (negated : Bool) (a : CharSet) : CharSet := if negated then .complement a else a

def lineFeed : CharSet := char '\n'

/-- The characters of some general categories. -/
def categories (names : List String) : CharSet := ofList (names.map fun n => .ranges (Text.category n))

/-- Letters of every kind, with the marks, digits and connectors that words contain. -/
def word : CharSet :=
  .union (.ranges Text.alphabeticRanges)
    (.union (categories ["Mn", "Mc", "Me", "Nd", "Pc"]) (.ranges [(0x200C, 0x200D)]))

def digit : CharSet := categories ["Nd"]

def whiteSpace : CharSet := .ranges [(9, 13), (32, 32), (0x85, 0x85), (0xA0, 0xA0), (0x1680, 0x1680),
  (0x2000, 0x200A), (0x2028, 0x2029), (0x202F, 0x202F), (0x205F, 0x205F), (0x3000, 0x3000)]

/-- The ranges of the set; differences in case are left aside. -/
def toRanges : CharSet → Text.Ranges
  | ranges rs => rs
  | union a b => a.toRanges.union b.toRanges
  | intersection a b => a.toRanges.intersection b.toRanges
  | complement a => a.toRanges.complement
  | folded a => a.toRanges

/-- Whether every character of the set is surely an ASCII character. -/
def isAscii : CharSet → Bool
  | ranges rs => rs.all (·.2 < 128)
  | union a b => a.isAscii && b.isAscii
  | intersection a b => a.isAscii || b.isAscii
  | complement _ => false
  | folded a => a.isAscii

end CharSet

end ModelForge
