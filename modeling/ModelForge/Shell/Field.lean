import ModelForge.Shell.State
/-!
Expanded words. What a word expands to is a row of atoms, of which fields are made: an unquoted
separator from an expansion ends a field, and a quote makes one even if nothing stands in it.
-/

namespace ModelForge.Shell

/-- A character of a word, and whether it was quoted. -/
structure Mark where
  char   : Char
  quoted : Bool
  deriving DecidableEq, Repr

/-- A part of an expanded word. -/
inductive Atom
  | mark (m : Mark)
  /-- A separator that counts once however often it stands in a row. -/
  | blank (c : Char)
  /-- A separator each of which ends a field. -/
  | separator (c : Char)
  /-- A border between fields. -/
  | border
  /-- A quote, which makes a field even if nothing stands in it. -/
  | presence
  /-- Nothing at all, which takes back the quote right before it. -/
  | absence
  deriving DecidableEq, Repr

namespace Atom

/-- The characters of an expansion. Separators count as such unless they are quoted. -/
def ofValue (separators : List Char) (quoted : Bool) (s : List Char) : List Atom :=
  s.map fun c =>
    if quoted || !separators.contains c then .mark ⟨c, quoted⟩
    else if c = ' ' || c = '\t' || c = '\n' then .blank c
    else .separator c

/-- What stands before the next atom. -/
inductive Before
  | nothing
  /-- A field that is being put together, its last character first. -/
  | field (reversed : List Mark)
  /-- Blanks that have ended a field; a separator behind them ends no other. -/
  | blanks

def Before.close : Before → List (List Mark)
  | field reversed => [reversed.reverse]
  | _ => []

def Before.reversed : Before → List Mark
  | field reversed => reversed
  | _ => []

def fieldsFrom (before : Before) : List Atom → List (List Mark)
  | [] => before.close
  | .mark m :: rest => fieldsFrom (.field (m :: before.reversed)) rest
  | .presence :: rest => fieldsFrom (.field before.reversed) rest
  | .absence :: rest =>
    match before with
    | .field [] => fieldsFrom .nothing rest
    | other => fieldsFrom other rest
  | .border :: rest => before.close ++ fieldsFrom .nothing rest
  | .blank _ :: rest =>
    match before with
    | .field reversed => reversed.reverse :: fieldsFrom .blanks rest
    | other => fieldsFrom other rest
  | .separator _ :: rest =>
    match before with
    | .field reversed => reversed.reverse :: fieldsFrom .nothing rest
    | .blanks => fieldsFrom .nothing rest
    | .nothing => [] :: fieldsFrom .nothing rest

/-- The fields of an expanded word. -/
def fields (atoms : List Atom) : List (List Mark) := fieldsFrom .nothing atoms

/-- The word as one text, with what was quoted in it. -/
def whole (atoms : List Atom) : List Mark :=
  atoms.filterMap fun
    | .mark m => some m
    | .blank c => some ⟨c, false⟩
    | .separator c => some ⟨c, false⟩
    | .border => some ⟨' ', true⟩
    | .presence => none
    | .absence => none

/-- The word as plain text. -/
def text (atoms : List Atom) : List Char := (whole atoms).map (·.char)

/-- Texts as fields of their own, quoted or to be divided further. -/
def ofTexts (separators : List Char) (quoted : Bool) (texts : List (List Char)) : List Atom :=
  let one (s : List Char) := (if quoted then [.presence] else []) ++ ofValue separators quoted s
  match texts with
  | [] => [.absence]
  | s :: rest => one s ++ rest.flatMap fun t => .border :: one t

end Atom

end ModelForge.Shell
