/-!
Places in a text as people are told about them: a line, counted by line feeds, and a column,
counted in bytes of the UTF-8 form.
-/

namespace ModelForge.Text

structure Position where
  line   : Nat
  column : Nat
  deriving DecidableEq, Repr

namespace Position

/-- The place before any character. -/
def start : Position := ⟨1, 0⟩

/-- The place after one more character. -/
def advance (p : Position) (c : Char) : Position :=
  if c = '\n' then ⟨p.line + 1, 0⟩ else ⟨p.line, p.column + c.utf8Size⟩

/-- The place after the first byte of what follows; the end of the text has no such byte. -/
def peek (p : Position) : List Char → Position
  | [] => p
  | c :: _ => if c = '\n' then ⟨p.line + 1, 0⟩ else ⟨p.line, p.column + 1⟩

/-- The place after `n` bytes, which may lie inside a character. -/
def advanceBytes (p : Position) : Nat → List Char → Position
  | _, [] => p
  | n, c :: rest =>
    if n = 0 then p
    else if c = '\n' then advanceBytes ⟨p.line + 1, 0⟩ (n - 1) rest
    else advanceBytes ⟨p.line, p.column + min n c.utf8Size⟩ (n - c.utf8Size) rest

def describe (p : Position) : String := s!"line {p.line} column {p.column}"

end Position

/-- What is left of a text, and where it begins. -/
structure Cursor where
  rest     : List Char
  position : Position := .start

namespace Cursor

def ofString (s : String) : Cursor := { rest := s.toList }

/-- The cursor after the next character; none at the end. -/
def next? (c : Cursor) : Option (Char × Cursor) :=
  match c.rest with
  | [] => none
  | x :: rest => some (x, ⟨rest, c.position.advance x⟩)

/-- The place of the next byte. -/
def here (c : Cursor) : Position := c.position.peek c.rest

/-- Moves past the longest run of characters of a class. -/
def skipWhile (p : Char → Bool) (c : Cursor) : Cursor :=
  go c.position c.rest
where
  go (pos : Position) : List Char → Cursor
    | [] => ⟨[], pos⟩
    | x :: rest => if p x then go (pos.advance x) rest else ⟨x :: rest, pos⟩

end Cursor

end ModelForge.Text
