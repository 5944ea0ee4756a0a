import ModelForge.Pattern.SetSyntax
/-!
The common notation of patterns. A text in it is read with the plain alphabet. A text that asks
what stands around, or for what has matched before, goes beyond it and is read with the Unicode
alphabet; all that the notation refuses up to there is refused. The letter `c` escaped with a
letter behind it is written for a control character, which it is replaced by.
-/

namespace ModelForge.Pattern.Notation

/-- What stands right before a place in a pattern. -/
inductive Last
  | nothing
  | switches
  | part
  deriving DecidableEq

/-- How far a pattern has been read. -/
structure State where
  spaced : Bool := false
  /-- For each open group, the innermost first, whether blanks count for nothing around it. -/
  outer  : List Bool := []
  last   : Last := .nothing
  names  : List (List Char) := []

namespace State

def reading (s : State) : Reading := { spaced := s.spaced }

def skip (s : State) (cs : List Char) : List Char := s.reading.skip cs

end State

abbrev Step := Except Fault (State × List Char)

/-- Switches up to a colon or a closing bracket, which is left. No switch, and no dash, is given
twice, and no dash is last. -/
def switches (given : List Char) : List Char → Option (List Char × List Char)
  | [] => none
  | c :: rest =>
    if c = ':' || c = ')' then
      if given.head? = some '-' then none else some (given.reverse, c :: rest)
    else if ['i', 'm', 's', 'u', 'U', 'R', 'x', '-'].contains c && !given.contains c then
      switches (c :: given) rest
    else none

/-- Whether blanks count for nothing behind switches. -/
def spacedAfter (before : Bool) (given : List Char) : Bool :=
  if given.contains 'x' then !(given.takeWhile (· ≠ 'x')).contains '-' else before

def isNameStart (c : Char) : Bool := c = '_' || Text.isAlphabetic c

def isNameChar (c : Char) : Bool :=
  c = '_' || c = '.' || c = '[' || c = ']' || Text.isAlphanumeric c

/-- The name of a group behind its opening angle bracket. -/
def groupName (names : List (List Char)) (cs : List Char) : Option (List Char × List Char) :=
  let name := cs.takeWhile (· ≠ '>')
  match name, cs.drop name.length with
  | c :: more, _ :: rest =>
    if isNameStart c && more.all isNameChar && !names.contains name then some (name, rest) else none
  | _, _ => none

/-- Enters a group behind its bracket. -/
def enter (s : State) (spaced : Bool) (rest : List Char) : Step :=
  .ok ({ s with outer := s.spaced :: s.outer, spaced := spaced, last := .nothing }, rest)

def enterNamed (s : State) (cs : List Char) : Step :=
  match groupName s.names cs with
  | some (name, rest) => enter { s with names := name :: s.names } s.spaced rest
  | none => .error .broken

/-- What stands behind an opening bracket. -/
def opening (s : State) (cs : List Char) : Step :=
  match s.skip cs with
  | '?' :: '=' :: _ => .error .extended
  | '?' :: '!' :: _ => .error .extended
  | '?' :: '<' :: '=' :: _ => .error .extended
  | '?' :: '<' :: '!' :: _ => .error .extended
  | '?' :: 'P' :: '<' :: rest => enterNamed s rest
  | '?' :: '<' :: rest => enterNamed s rest
  | '?' :: rest =>
    match switches [] rest with
    | some (given, ':' :: rest) => enter s (spacedAfter s.spaced given) rest
    | some (c :: given, _ :: rest) =>
      .ok ({ s with spaced := spacedAfter s.spaced (c :: given), last := .switches }, rest)
    | _ => .error .broken
  | cs => enter s s.spaced cs

/-- A decimal number, with blanks around it. -/
def number (s : State) (cs : List Char) : Option Nat × List Char :=
  let rec digits (fuel : Nat) (n : Nat) (any : Bool) (cs : List Char) : Option Nat × List Char :=
    match fuel, cs with
    | fuel + 1, c :: rest =>
      if c.isDigit then digits fuel (10 * n + (c.toNat - 48)) true (s.skip rest)
      else (if any then some n else none, cs)
    | _, cs => (if any then some n else none, cs)
  let (n, rest) := digits cs.length 0 false (cs.dropWhile Text.isWhiteSpace)
  (n.filter (· < Nat.pow 2 32), s.skip (rest.dropWhile Text.isWhiteSpace))

/-- The bounds of a repetition behind the opening brace. -/
def bounds (s : State) (cs : List Char) : Option (List Char) :=
  match number s (s.skip cs) with
  | (some _, '\x7d' :: rest) => some rest
  | (some least, ',' :: rest) =>
    match s.skip rest with
    | '\x7d' :: rest => some rest
    | rest =>
      match number s rest with
      | (some most, '\x7d' :: rest) => if least ≤ most then some rest else none
      | _ => none
  | _ => none

def dropLazy (cs : List Char) : List Char :=
  match cs with
  | '?' :: rest => rest
  | _ => cs

/-- Reads on by one part or sign. -/
def step (s : State) (c : Char) (rest : List Char) : Step :=
  let part (rest : List Char) : Step := .ok ({ s with last := .part }, rest)
  match c with
  | '(' => opening s rest
  | ')' =>
    match s.outer with
    | spaced :: outer => .ok ({ s with spaced := spaced, outer := outer, last := .part }, rest)
    | [] => .error .broken
  | '|' => .ok ({ s with last := .nothing }, rest)
  | '[' => (SetSyntax.read s.reading rest).bind fun (_, rest) => part rest
  | '\\' => (Escape.read s.reading rest).bind fun (_, rest) => part rest
  | '\x7b' =>
    match if s.last = .part then bounds s rest else none with
    | some rest => part (dropLazy (s.skip rest))
    | none => .error .broken
  | c =>
    if c = '*' || c = '+' || c = '?' then if s.last = .part then part (dropLazy rest) else .error .broken
    else part rest

/-- Reads a pattern to its end. -/
def check : Nat → State → List Char → Except Fault Unit
  | 0, _, _ => .error .broken
  | fuel + 1, s, cs =>
    match s.skip cs with
    | [] => if s.outer.isEmpty then .ok () else .error .broken
    | c :: rest => (step s c rest).bind fun (s, rest) => check fuel s rest

/-- The text with control characters in their places, and the alphabet in which it is read; none
for a text that is refused. -/
def extend : Nat → List Char → Option (Alphabet × List Char)
  | 0, _ => none
  | fuel + 1, cs =>
    match check (cs.length + 1) {} cs with
    | .ok () => some (.plain, cs)
    | .error .extended => some (.unicode, cs)
    | .error .broken => none
    | .error (.control behind) =>
      match cs.drop (cs.length - behind) with
      | letter :: rest =>
        if letter.isAlpha then
          extend fuel (cs.take (cs.length - behind - 2) ++ Char.ofNat (letter.toNat % 32) :: rest)
        else none
      | [] => none

end ModelForge.Pattern.Notation
