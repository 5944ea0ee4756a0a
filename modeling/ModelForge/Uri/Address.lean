/-!
Internet addresses in text.
-/

namespace ModelForge.Address

/-- The parts of a text between separators, empty ones included. -/
def splitOn (separator : Char) : List Char → List (List Char)
  | [] => [[]]
  | c :: rest =>
    if c = separator then [] :: splitOn separator rest
    else
      match splitOn separator rest with
      | [] => [[c]]
      | s :: more => (c :: s) :: more

def isHexDigit (c : Char) : Bool :=
  c.isDigit || ('a' ≤ c && c ≤ 'f') || ('A' ≤ c && c ≤ 'F')

/-- A number below 256 without leading zeros. -/
def isOctet (ds : List Char) : Bool :=
  ds ≠ [] && ds.length ≤ 3 && ds.all Char.isDigit && (ds.length = 1 || ds.head? ≠ some '0') &&
    ds.foldl (fun n c => 10 * n + (c.toNat - 48)) 0 < 256

/-- Four numbers with dots between them. -/
def isVersion4 (s : List Char) : Bool :=
  let parts := splitOn '.' s
  parts.length = 4 && parts.all isOctet

def isGroup (ds : List Char) : Bool := ds ≠ [] && ds.length ≤ 4 && ds.all isHexDigit

/-- The number of groups that a row of groups stands for, the last of which may be an address of
four numbers and counts as two. -/
def groupCount? (allowVersion4 : Bool) (s : List Char) : Option Nat :=
  if s = [] then some 0
  else
    let parts := splitOn ':' s
    if parts.all isGroup then some parts.length
    else
      match parts.getLast? with
      | some last =>
        if allowVersion4 && parts.dropLast.all isGroup && isVersion4 last then some (parts.length + 1) else none
      | none => none

/-- What stands before and after the first pair of colons. -/
def cutPair : List Char → Option (List Char × List Char)
  | ':' :: ':' :: rest => some ([], rest)
  | c :: rest => (cutPair rest).map fun (before, after) => (c :: before, after)
  | [] => none

/-- Eight groups, of which one row of zeros may be left out. -/
def isVersion6 (s : List Char) : Bool :=
  match cutPair s with
  | none => groupCount? true s = some 8
  | some (before, after) =>
    match groupCount? false before, groupCount? true after with
    | some m, some n => m + n < 8
    | _, _ => false

end ModelForge.Address
