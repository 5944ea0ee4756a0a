import ModelForge.Pattern.Escape
/-!
Sets of characters in square brackets: members, ranges, named sets and sets inside, and the three
operators that combine what stands before them with what stands behind.
-/

namespace ModelForge.Pattern.SetSyntax

/-- The named sets of ASCII characters, written between colons inside a set. -/
def named? (name : String) : Option CharSet :=
  match name with
  | "alnum" => some (.ranges [(48, 57), (65, 90), (97, 122)])
  | "alpha" => some (.ranges [(65, 90), (97, 122)])
  | "ascii" => some (.ranges [(0, 127)])
  | "blank" => some (.ranges [(9, 9), (32, 32)])
  | "cntrl" => some (.ranges [(0, 31), (127, 127)])
  | "digit" => some (.ranges [(48, 57)])
  | "graph" => some (.ranges [(33, 126)])
  | "lower" => some (.ranges [(97, 122)])
  | "print" => some (.ranges [(32, 126)])
  | "punct" => some (.ranges [(33, 47), (58, 64), (91, 96), (123, 126)])
  | "space" => some (.ranges [(9, 13), (32, 32)])
  | "upper" => some (.ranges [(65, 90)])
  | "word" => some Alphabet.asciiWord
  | "xdigit" => some (.ranges [(48, 57), (65, 70), (97, 102)])
  | _ => none

/-- A named set behind its opening bracket, if there is one. -/
def namedSet? (r : Reading) (cs : List Char) : Option (CharSet × List Char) :=
  match cs with
  | ':' :: rest =>
    let (negated, rest) := match rest with
      | '^' :: rest => (true, rest)
      | _ => (false, rest)
    let name := rest.takeWhile (· ≠ ':')
    match rest.drop name.length with
    | ':' :: ']' :: rest =>
      (named? (String.ofList name)).map fun s => ((s.foldedIf r.ignoreCase).complementIf negated, rest)
    | _ => none
  | _ => none

/-- One member: an escape, or a character that stands for itself. -/
def member (r : Reading) (cs : List Char) : Except Fault (Escape × List Char) :=
  match cs with
  | '\\' :: rest => Escape.read r rest
  | c :: rest => .ok (.char c, rest)
  | [] => .error .broken

/-- A member with the end of a range behind it, if there is one. A dash before another dash or
before the closing bracket makes no range. -/
def span (r : Reading) (cs : List Char) : Except Fault (CharSet × List Char) := do
  let (first, rest) ← member r cs
  let rest := r.skip rest
  let alone : Except Fault (CharSet × List Char) := match first with
    | .char c => .ok (.char c, rest)
    | .set s => .ok (s, rest)
    | .assertion => .error .broken
  match rest with
  | '-' :: behind =>
    match r.skip behind with
    | ']' :: _ => alone
    | '-' :: _ => alone
    | behind =>
      let (last, rest) ← member r behind
      match first, last with
      | .char low, .char high => if low ≤ high then return (.range low high, rest) else throw .broken
      | _, _ => throw .broken
  | [] => throw .broken
  | _ => alone

/-- The operator that stands next, if there is one. -/
def operator? (cs : List Char) : Option ((CharSet → CharSet → CharSet) × List Char) :=
  match cs with
  | '&' :: '&' :: rest => some (.intersection, rest)
  | '-' :: '-' :: rest => some (.difference, rest)
  | '~' :: '~' :: rest => some (.symmetricDifference, rest)
  | _ => none

mutual

/-- The members up to the closing bracket. What stands before an operator is already combined, so
that only the last operator waits, in `finish`; `sofar` holds the members behind it. -/
def members (r : Reading) (fuel : Nat) (finish : CharSet → CharSet) (sofar : CharSet) (cs : List Char) :
    Except Fault (CharSet × List Char) :=
  match fuel with
  | 0 => .error .broken
  | fuel + 1 =>
    let cs := r.skip cs
    match operator? cs with
    | some (combine, rest) =>
      let left := (finish sofar).foldedIf r.ignoreCase
      members r fuel (fun right => combine left (right.foldedIf r.ignoreCase)) .nothing rest
    | none =>
      match cs with
      | [] => .error .broken
      | ']' :: rest => .ok (finish sofar, rest)
      | '[' :: rest =>
        match namedSet? r rest with
        | some (s, rest) => members r fuel finish (.union sofar s) rest
        | none => do
          let (s, rest) ← bracketed r fuel rest
          members r fuel finish (.union sofar s) rest
      | _ => do
        let (s, rest) ← span r cs
        members r fuel finish (.union sofar s) rest

/-- A set behind its opening bracket. Dashes, or else a closing bracket, right there are members. -/
def bracketed (r : Reading) (fuel : Nat) (cs : List Char) : Except Fault (CharSet × List Char) :=
  match fuel with
  | 0 => .error .broken
  | fuel + 1 => do
    let (negated, cs) := match r.skip cs with
      | '^' :: rest => (true, r.skip rest)
      | cs => (false, cs)
    let (sofar, cs) := leading r cs.length .nothing cs
    let (s, rest) ← members r fuel id sofar cs
    return ((s.foldedIf r.ignoreCase).complementIf negated, rest)
where
  leading (r : Reading) : Nat → CharSet → List Char → CharSet × List Char
    | fuel + 1, sofar, '-' :: rest => dashes r fuel (.union sofar (.char '-')) (r.skip rest)
    | _, sofar, ']' :: rest => (.union sofar (.char ']'), r.skip rest)
    | _, sofar, cs => (sofar, cs)
  dashes (r : Reading) : Nat → CharSet → List Char → CharSet × List Char
    | fuel + 1, sofar, '-' :: rest => dashes r fuel sofar (r.skip rest)
    | _, sofar, cs => (sofar, cs)

end

/-- Reads a set behind its opening bracket. -/
def read (r : Reading) (cs : List Char) : Except Fault (CharSet × List Char) :=
  bracketed r (2 * cs.length + 2) cs

end ModelForge.Pattern.SetSyntax
