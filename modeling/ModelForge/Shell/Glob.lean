import ModelForge.FileSystem.Basic
import ModelForge.Shell.Field
/-!
Patterns of scripts: an asterisk for any text, a question mark for one character, square brackets
for one of some characters. A quoted character is never special. A pattern can also stand for the
paths that it matches.
-/

namespace ModelForge.Shell.Glob

/-- An unquoted character that is this one. -/
def isSign (c : Char) (m : Mark) : Bool := m.char = c && !m.quoted

/-- The name of the class at the beginning of some members, and what follows it. -/
def class? (ms : List Mark) : Option (String × List Mark) :=
  match ms with
  | a :: b :: rest =>
    if isSign '[' a && isSign ':' b then
      let name := rest.takeWhile fun m => m.char.isAlpha
      match rest.drop name.length with
      | c :: d :: behind =>
        if isSign ':' c && isSign ']' d then some (String.ofList (name.map (·.char)), behind) else none
      | _ => none
    else none
  | _ => none

/-- The characters between square brackets, behind the opening one, and what follows them. A closing
bracket in the first place, and those of a named class, belong to them. -/
def members : Nat → Bool → List Mark → Option (List Mark × List Mark)
  | 0, _, _ => none
  | fuel + 1, isFirst, marks =>
    match marks with
    | [] => none
    | a :: rest =>
      if isSign ']' a && !isFirst then some ([], rest)
      else
        match class? marks with
        | some (_, behind) =>
          (members fuel false behind).map fun (s, others) => (marks.take (marks.length - behind.length) ++ s, others)
        | none => (members fuel (isFirst && isSign '!' a) rest).map fun (s, others) => (a :: s, others)

/-- The named classes of characters. -/
def classAdmits (name : String) (c : Char) : Bool :=
  match name with
  | "alpha" => c.isAlpha
  | "digit" => c.isDigit
  | "alnum" => c.isAlphanum
  | "upper" => c.isUpper
  | "lower" => c.isLower
  | "space" => c = ' ' || ('\t' ≤ c && c ≤ '\r')
  | "blank" => c = ' ' || c = '\t'
  | "punct" => '!' ≤ c && c ≤ '~' && !c.isAlphanum
  | "print" => ' ' ≤ c && c ≤ '~'
  | "graph" => '!' ≤ c && c ≤ '~'
  | "cntrl" => c < ' ' || c = '\x7f'
  | "xdigit" => c.isDigit || ('a' ≤ c.toLower && c.toLower ≤ 'f')
  | _ => false

def isMember (c : Char) : Nat → List Mark → Bool
  | 0, _ => false
  | fuel + 1, ms =>
    match class? ms with
    | some (name, rest) => classAdmits name c || isMember c fuel rest
    | none =>
      match ms with
      | a :: d :: b :: rest =>
        if isSign '-' d then (a.char ≤ c && c ≤ b.char) || isMember c fuel rest
        else a.char = c || isMember c fuel (d :: b :: rest)
      | m :: rest => m.char = c || isMember c fuel rest
      | [] => false

/-- What a set of members says about a character; it may begin with a sign of negation. -/
def setAdmits (c : Char) (set : List Mark) : Bool :=
  match set with
  | m :: rest => if isSign '!' m then !isMember c set.length rest else isMember c set.length set
  | [] => false

/-- Whether a pattern matches a whole text, with at most so many steps. -/
def admitsWithin : Nat → List Mark → List Char → Bool
  | 0, _, _ => false
  | fuel + 1, pattern, s =>
    match pattern with
    | [] => s.isEmpty
    | m :: rest =>
      if isSign '*' m then
        admitsWithin fuel rest s ||
          match s with
          | _ :: s => admitsWithin fuel pattern s
          | [] => false
      else
        match s with
        | [] => false
        | c :: s =>
          if isSign '?' m then admitsWithin fuel rest s
          else
            match if isSign '[' m then members rest.length.succ true rest else none with
            | some (set, rest) => setAdmits c set && admitsWithin fuel rest s
            | none => m.char = c && admitsWithin fuel rest s

def admits (pattern : List Mark) (s : List Char) : Bool :=
  admitsWithin (pattern.length + s.length + 1) pattern s

/-- The length of the shortest or longest beginning that a pattern matches. -/
def beginning? (longest : Bool) (pattern : List Mark) (s : List Char) : Option Nat :=
  let lengths := (List.range (s.length + 1)).filter fun n => admits pattern (s.take n)
  if longest then lengths.getLast? else lengths.head?

/-- The length of the shortest or longest end that a pattern matches. -/
def ending? (longest : Bool) (pattern : List Mark) (s : List Char) : Option Nat :=
  let lengths := (List.range (s.length + 1)).filter fun n => admits pattern (s.drop (s.length - n))
  if longest then lengths.getLast? else lengths.head?

/-- Whether a word is more than the text it spells. -/
def isPattern (marks : List Mark) : Bool := marks.any fun m => !m.quoted && "*?[".toList.contains m.char

/-- The parts of a pattern between slashes. -/
def splitSlashes : List Mark → List (List Mark)
  | [] => [[]]
  | m :: rest =>
    if m.char = '/' then [] :: splitSlashes rest
    else
      match splitSlashes rest with
      | [] => [[m]]
      | s :: more => (m :: s) :: more

/-- The names in a directory that a pattern matches. A name with a dot at its beginning has to be
asked for by a dot. -/
def namesIn (fs : FileSystem) (directory : List Char) (pattern : List Mark) : List (List Char) :=
  let there := ((fs.list (pathOf (if directory.isEmpty then ['.'] else directory))).toOption.getD []).map letters
  let startsWithDot := pattern.head?.any fun m => m.char = '.'
  let names := (if startsWithDot then [['.'], ['.', '.']] else []) ++ there
  (names.filter fun n => admits pattern n && (startsWithDot || n.head? ≠ some '.')).mergeSort fun a b => !decide (b < a)

/-- The paths behind a beginning that the parts of a pattern match. -/
def pathsFrom (fs : FileSystem) (beginning : List Char) : List (List Mark) → List (List Char)
  | [] => [beginning]
  | part :: rest =>
    let behind (name : List Char) : List (List Char) :=
      let path := beginning ++ name
      if rest.isEmpty then if fs.exists (pathOf path) then [path] else []
      else pathsFrom fs (path ++ ['/']) rest
    if isPattern part then (namesIn fs beginning part).flatMap behind else behind (part.map (·.char))

/-- The paths that a word stands for; the text it spells if it matches none. -/
def paths (fs : FileSystem) (word : List Mark) : List (List Char) :=
  let spelled := word.map (·.char)
  if isPattern word then
    match pathsFrom fs [] (splitSlashes word) with
    | [] => [spelled]
    | ps => ps
  else [spelled]

end ModelForge.Shell.Glob
