/-!
Reading a YAML text character by character. A mark says where a character stands: how many
characters precede it, and its line and column, counted from zero. The end of the text behaves
like a character of its own that ends every line.
-/

namespace ModelForge.Yaml

structure Mark where
  index  : Nat := 0
  line   : Nat := 0
  column : Nat := 0
  deriving DecidableEq, Repr, Inhabited

namespace Mark

/-- The very start of the text is never reported. -/
def isOrigin (m : Mark) : Bool := m.line = 0 && m.column = 0

def describe (m : Mark) : String := s!"line {m.line + 1} column {m.column + 1}"

end Mark

/-- Why a text is no YAML: the problem with its place, and what was being read with the place
where that began. -/
structure Problem where
  problem : String
  mark    : Mark
  context : Option (String × Mark) := none
  /-- Set for a problem that is known by its number of bytes from the start. -/
  offset  : Nat := 0
  deriving DecidableEq, Repr

def Problem.message (p : Problem) : String :=
  let place :=
    if !p.mark.isOrigin then " at " ++ p.mark.describe
    else if p.offset ≠ 0 then s!" at position {p.offset}"
    else ""
  let context :=
    match p.context with
    | none => ""
    | some (doing, since) =>
      let began :=
        if !since.isOrigin && (since.line ≠ p.mark.line || since.column ≠ p.mark.column) then
          " at " ++ since.describe
        else ""
      ", " ++ doing ++ began
  p.problem ++ place ++ context

structure Cursor where
  rest : List Char
  mark : Mark := {}
  deriving Inhabited

namespace Char

def isSpace (c : Char) : Bool := c = ' '

def isTab (c : Char) : Bool := c = '\t'

def isBlank (c : Char) : Bool := c = ' ' || c = '\t'

/-- Carriage return, line feed, next line, line separator and paragraph separator. -/
def isBreak (c : Char) : Bool :=
  c = '\r' || c = '\n' || c = '\u0085' || c = '\u2028' || c = '\u2029'

def isDigit (c : Char) : Bool := '0' ≤ c && c ≤ '9'

/-- The characters of anchors, directives and tag handles. -/
def isWord (c : Char) : Bool :=
  isDigit c || ('a' ≤ c && c ≤ 'z') || ('A' ≤ c && c ≤ 'Z') || c = '_' || c = '-'

def hexValue? (c : Char) : Option Nat :=
  if isDigit c then some (c.toNat - 48)
  else if 'a' ≤ c && c ≤ 'f' then some (c.toNat - 87)
  else if 'A' ≤ c && c ≤ 'F' then some (c.toNat - 55)
  else none

end Char

namespace Cursor

/-- Whether the character some places ahead is of a class; the end of the text is of none. -/
def look (c : Cursor) (n : Nat) (p : Char → Bool) : Bool := (c.rest[n]?).any p

def at? (c : Cursor) (x : Char) : Bool := c.look 0 (· == x)

def isEnd (c : Cursor) : Bool := c.rest.isEmpty

def isBlank (c : Cursor) : Bool := c.look 0 Char.isBlank

def isBreak (c : Cursor) : Bool := c.look 0 Char.isBreak

def isBreakOrEnd (c : Cursor) : Bool := c.isEnd || c.isBreak

/-- A blank, a line break or the end, some places ahead. -/
def isGap (c : Cursor) (n : Nat := 0) : Bool :=
  match c.rest[n]? with
  | none => true
  | some x => Char.isBlank x || Char.isBreak x

/-- Three equal characters at the beginning of a line that stand alone: `---` or `...`. -/
def isDocumentIndicator (c : Cursor) (x : Char) : Bool :=
  c.mark.column = 0 && c.look 0 (· == x) && c.look 1 (· == x) && c.look 2 (· == x) && c.isGap 3

def skip (c : Cursor) : Cursor :=
  { rest := c.rest.drop 1, mark := ⟨c.mark.index + 1, c.mark.line, c.mark.column + 1⟩ }

def skipMany (c : Cursor) : Nat → Cursor
  | 0 => c
  | n + 1 => c.skip.skipMany n

/-- Passes a line break; a carriage return and a line feed are one. -/
def skipLine (c : Cursor) : Cursor :=
  match c.rest with
  | '\r' :: '\n' :: rest => { rest, mark := ⟨c.mark.index + 2, c.mark.line + 1, 0⟩ }
  | x :: rest => if Char.isBreak x then { rest, mark := ⟨c.mark.index + 1, c.mark.line + 1, 0⟩ } else c
  | [] => c

/-- The line break as text: separators stay, all others are a line feed. -/
def lineBreak (c : Cursor) : List Char :=
  match c.rest with
  | x :: _ => if x = '\u2028' || x = '\u2029' then [x] else if Char.isBreak x then ['\n'] else []
  | [] => []

/-- Passes the longest run of characters of a class. -/
def skipWhile (c : Cursor) (p : Char → Bool) : Cursor :=
  let n := (c.rest.takeWhile p).length
  { rest := c.rest.drop n, mark := ⟨c.mark.index + n, c.mark.line, c.mark.column + n⟩ }

def takeWhile (c : Cursor) (p : Char → Bool) : List Char := c.rest.takeWhile p

def skipBlanks (c : Cursor) : Cursor := c.skipWhile Char.isBlank

/-- Passes a comment, if one begins here, up to the end of its line. -/
def skipComment (c : Cursor) : Cursor :=
  if c.at? '#' then c.skipWhile (!Char.isBreak ·) else c

/-- A bound on the number of steps that a reader of the rest can take. -/
def fuel (c : Cursor) : Nat := c.rest.length + 1

end Cursor

/-- The problem of a reader that began at a mark and fails at the cursor. -/
def fail {α : Type} (c : Cursor) (doing : String) (since : Mark) (problem : String) :
    Except Problem α :=
  .error { problem, mark := c.mark, context := some (doing, since) }

end ModelForge.Yaml
