/-!
Shell scripts: the language that small emitter programs are written in. A script is a row of
commands; their words are put together from pieces that are expanded when a command is run.
-/

namespace ModelForge.Shell

/-- How the value of a parameter is changed on the way. -/
inductive Change
  | none
  | length
  /-- A pattern is cut off at the beginning or the end, where it matches least or most. -/
  | cutFront (longest : Bool)
  | cutBack (longest : Bool)
  /-- A word stands in for a parameter that is not set or, with a colon, empty. -/
  | default (orEmpty : Bool)
  /-- A word stands in for a parameter that is set. -/
  | alternative (orEmpty : Bool)
  /-- As `default`, and the parameter is set to the word. -/
  | assign (orEmpty : Bool)
  /-- The parameter has to be set; the word is what to say if it is not. -/
  | demand (orEmpty : Bool)
  deriving DecidableEq, Repr

inductive Piece
  | text (s : List Char) (quoted : Bool)
  | parameter (name : String) (change : Change) (word : List Piece) (quoted : Bool)
  /-- The output of commands, kept as text until it is needed, with the line it begins on. They stand
  between brackets or between backquotes. -/
  | output (bracketed : Bool) (line : Nat) (source : List Char) (quoted : Bool)
  | arithmetic (expression : List Piece) (quoted : Bool)
  /-- Braces behind a dollar sign that hold no parameter. -/
  | malformed
  deriving Repr

abbrev Word := List Piece

/-- What a redirection does with a stream. -/
inductive Direction
  | read
  | write
  /-- Writes even where files are protected. -/
  | overwrite
  | append
  | both
  | duplicate
  /-- The word itself is what is read. -/
  | document
  deriving DecidableEq, Repr

structure Redirection where
  stream    : Nat
  direction : Direction
  target    : Word
  deriving Repr

inductive Command
  | nothing
  | simple (line : Nat) (assignments : List (String × Word)) (words : List Word)
      (redirections : List Redirection)
  | sequence (a b : Command)
  | background (a : Command)
  | both (a b : Command)
  | either (a b : Command)
  | negated (a : Command)
  | pipe (a b : Command)
  | loop (negated : Bool) (condition body : Command)
  | each (line : Nat) (name : String) (words : Option (List Word)) (body : Command)
  | choice (condition consequent alternative : Command)
  | select (line : Nat) (subject : Word) (branches : List (List Word × Command))
  | group (line : Nat) (body : Command) (redirections : List Redirection)
  | inner (line : Nat) (body : Command) (redirections : List Redirection)
  | define (name : String) (body : Command)
  deriving Repr

end ModelForge.Shell
