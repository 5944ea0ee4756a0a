import ModelForge.Json.Basic
import ModelForge.Decimal.Shortest
/-!
The two written forms of a JSON value: compact, on one line without blanks, and pretty, with one
member or item per line. Both escape in a string only what they must.
-/

namespace ModelForge

open Decimal

namespace Number

/-- Floating-point numbers of five places after the point up to sixteen before it are written
positionally, others with an exponent that always carries its sign. -/
def layout : Layout := ⟨-5, 15, true⟩

def render : Number → String
  | .int n => toString n
  | .real x => (if x.negative then "-" else "") ++ if x.isZero then "0.0" else layout.write x.shortest

end Number

namespace Json

def hexDigit (n : Nat) : Char := if n < 10 then Char.ofNat (48 + n) else Char.ofNat (87 + n)

/-- How one character stands inside a quoted string. -/
def escape (c : Char) : List Char :=
  if c = '"' then ['\\', '"']
  else if c = '\\' then ['\\', '\\']
  else if c = '\x08' then ['\\', 'b']
  else if c = '\x0c' then ['\\', 'f']
  else if c = '\n' then ['\\', 'n']
  else if c = '\r' then ['\\', 'r']
  else if c = '\t' then ['\\', 't']
  else if c.toNat < 32 then ['\\', 'u', '0', '0', hexDigit (c.toNat / 16), hexDigit (c.toNat % 16)]
  else [c]

def quoteChars (s : List Char) : List Char := '"' :: s.flatMap escape ++ ['"']

def quote (s : String) : String := String.ofList (quoteChars s.toList)

mutual

/-- The compact form. -/
def compact : Json → String
  | .null => "null"
  | .bool b => if b then "true" else "false"
  | .num n => n.render
  | .str s => quote s
  | .arr items => "[" ++ compactItems items ++ "]"
  | .obj members => "\x7b" ++ compactMembers members ++ "\x7d"

def compactItems : List Json → String
  | [] => ""
  | [x] => compact x
  | x :: y :: rest => compact x ++ "," ++ compactItems (y :: rest)

def compactMembers : List (String × Json) → String
  | [] => ""
  | [(k, x)] => quote k ++ ":" ++ compact x
  | (k, x) :: y :: rest => quote k ++ ":" ++ compact x ++ "," ++ compactMembers (y :: rest)

end

/-- A line feed and the indentation of a level. -/
def newline (level : Nat) : String := String.ofList ('\n' :: List.replicate (2 * level) ' ')

mutual

/-- The pretty form of a value that stands at a level of indentation. -/
def prettyAt (level : Nat) : Json → String
  | .arr [] => "[]"
  | .arr (x :: rest) => "[" ++ prettyItems (level + 1) (x :: rest) ++ newline level ++ "]"
  | .obj [] => "\x7b\x7d"
  | .obj (m :: rest) => "\x7b" ++ prettyMembers (level + 1) (m :: rest) ++ newline level ++ "\x7d"
  | .null => "null"
  | .bool b => if b then "true" else "false"
  | .num n => n.render
  | .str s => quote s

def prettyItems (level : Nat) : List Json → String
  | [] => ""
  | [x] => newline level ++ prettyAt level x
  | x :: y :: rest => newline level ++ prettyAt level x ++ "," ++ prettyItems level (y :: rest)

def prettyMembers (level : Nat) : List (String × Json) → String
  | [] => ""
  | [(k, x)] => newline level ++ quote k ++ ": " ++ prettyAt level x
  | (k, x) :: y :: rest =>
    newline level ++ quote k ++ ": " ++ prettyAt level x ++ "," ++ prettyMembers level (y :: rest)

end

/-- The pretty form: two blanks of indentation a level, and no final line feed. -/
def pretty (v : Json) : String := v.prettyAt 0

end Json

end ModelForge
