import ModelForge.Text.Letters
import ModelForge.Text.Uppercase
/-!
Type names. A name is written as words between dashes; its canonical form joins the words, each
with its first character in capital form. A canonical name serves as a type name if it is an
identifier.
-/

namespace ModelForge

namespace Name

/-- The pieces of a text between dashes, empty ones included. -/
def words : List Char → List (List Char)
  | [] => [[]]
  | c :: rest =>
    if c = '-' then [] :: words rest
    else
      match words rest with
      | [] => [[c]]
      | w :: ws => (c :: w) :: ws

/-- A word with its first character in capital form. -/
def capitalize : List Char → List Char
  | [] => []
  | c :: rest => Text.uppercase c ++ rest

/-- Reads a text once, knowing whether a word begins here. -/
def joinFrom (start : Bool) : List Char → List Char
  | [] => []
  | c :: rest =>
    if c = '-' then joinFrom true rest
    else if start then Text.uppercase c ++ joinFrom false rest
    else c :: joinFrom false rest

/-- The canonical form of a name. -/
def canonical (s : String) : String := String.ofList (joinFrom true s.toList)

def startsIdentifier (c : Char) : Bool := Text.isAlphabetic c || c = '_'

def continuesIdentifier (c : Char) : Bool := Text.isAlphanumeric c || c = '_'

def isIdentifierChars : List Char → Bool
  | [] => false
  | c :: rest => startsIdentifier c && rest.all continuesIdentifier

/-- A letter or an underscore, and then letters, digits and underscores. -/
def isIdentifier (s : String) : Bool := isIdentifierChars s.toList

theorem words_ne_nil (s : List Char) : words s ≠ [] := by
  cases s with
  | nil => simp [words]
  | cons c rest =>
    simp only [words]
    split
    · simp
    · split <;> simp

end Name

end ModelForge
