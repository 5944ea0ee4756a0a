import ModelForge.Json.Basic
/-!
JSON Pointers: ways from the root of a value down to a part of it. A token names a member of an
object or, in decimal digits, an item of an array. In the text of a pointer a slash stands before
each token, so that a slash inside a token, and the character that marks it, are escaped.
-/

namespace ModelForge

/-- The tokens of a way down. -/
abbrev Pointer := List String

namespace Pointer

def escapeChar (c : Char) : List Char :=
  if c = '~' then ['~', '0'] else if c = '/' then ['~', '1'] else [c]

def escape (token : List Char) : List Char := token.flatMap escapeChar

/-- Undoes the escapes of one token; a lone `~` stands for itself. -/
def unescape : List Char → List Char
  | '~' :: '0' :: rest => '~' :: unescape rest
  | '~' :: '1' :: rest => '/' :: unescape rest
  | c :: rest => c :: unescape rest
  | [] => []

def textChars (p : Pointer) : List Char := p.flatMap fun t => '/' :: escape t.toList

def text (p : Pointer) : String := String.ofList (textChars p)

/-- The parts of a text between slashes, empty ones included. -/
def parts : List Char → List (List Char)
  | [] => [[]]
  | c :: rest =>
    if c = '/' then [] :: parts rest
    else
      match parts rest with
      | [] => [[c]]
      | s :: more => (c :: s) :: more

/-- Reads the text of a pointer, which is empty or begins with a slash. -/
def read? (s : List Char) : Option Pointer :=
  match s with
  | [] => some []
  | '/' :: rest => some ((parts rest).map fun t => String.ofList (unescape t))
  | _ => none

/-- The number that decimal digits write; none for any other text. -/
def index? (token : String) : Option Nat :=
  let ds := token.toList
  if ds ≠ [] && ds.all Char.isDigit then some (ds.foldl (fun n c => 10 * n + (c.toNat - 48)) 0) else none

/-- One step down. -/
def step? (v : Json) (token : String) : Option Json :=
  match v with
  | .obj members => Keyed.find? token members
  | .arr items => (index? token).bind (items[·]?)
  | _ => none

end Pointer

namespace Json

/-- The part of a value that a pointer leads to. -/
def at? (v : Json) : Pointer → Option Json
  | [] => some v
  | t :: rest => (Pointer.step? v t).bind (·.at? rest)

end Json

end ModelForge
