import ModelForge.Uri.Basic
/-!
Completing a reference by the base that it stands under.
-/

namespace ModelForge

/-- Why a text cannot be completed to a full reference. -/
inductive ResolutionError
  | malformed (text : String) (fault : UriFault)
  /-- The base says itself which part of a document it means. -/
  | baseWithFragment (text : String) (base : Uri)
  /-- The base has no place for relative references. -/
  | opaqueBase (text : String) (base : Uri)
  deriving DecidableEq, Repr

namespace ResolutionError

def message : ResolutionError → String
  | malformed text fault => "Invalid URI reference '" ++ text ++ "': " ++ fault.message
  | baseWithFragment text base =>
    "Failed to resolve '" ++ text ++ "' against '" ++ base.text ++ "': base URI/IRI with fragment"
  | opaqueBase text base =>
    "Failed to resolve '" ++ text ++ "' against '" ++ base.text ++ "': relative reference must be empty or start" ++
      " with '#' when resolved against authority-less base URI/IRI with rootless path"

end ResolutionError

namespace Uri

/-- The path of a relative reference below that of its base, whose last segment it replaces. -/
def mergePath (base : Uri) (path : List Char) : List Char :=
  if base.authority.isSome && base.path = [] then '/' :: path
  else joinSegments ((segments base.path).dropLast ++ [path])

/-- Completes a reference. -/
def complete (base u : Uri) : Uri :=
  if u.scheme.isSome then u
  else if u.authority.isSome then { u with scheme := base.scheme }
  else if u.path = [] then { base with query := u.query <|> base.query, fragment := u.fragment }
  else
    let path := if u.path.head? = some '/' then u.path else mergePath base u.path
    { base with path := plainPath path, query := u.query, fragment := u.fragment }

/-- Whether relative references find no place below a base. -/
def isOpaque (base : Uri) : Bool := base.authority.isNone && base.path.head? ≠ some '/'

/-- Reads a reference and completes it by a base; the result is in normal form. -/
def resolve (base : Uri) (text : String) : Except ResolutionError Uri :=
  let cs := text.toList
  if cs.head? = some '#' && cs.isSuffixOf base.text.toList then .ok base
  else
    match read .ascii cs with
    | .error fault => .error (.malformed text fault)
    | .ok u =>
      if base.fragment.isSome then .error (.baseWithFragment text base)
      else if base.isOpaque && u.scheme.isNone && cs ≠ [] && cs.head? ≠ some '#' then .error (.opaqueBase text base)
      else .ok (base.complete u).normal

/-- What stands in for the base of a document that names none. -/
def root : Uri where
  scheme := some "json-schema".toList
  authority := some []
  path := ['/']

/-- Reads a reference on its own. -/
def ofText (text : String) : Except ResolutionError Uri :=
  match read .ascii text.toList with
  | .error fault => .error (.malformed text fault)
  | .ok u => if u.scheme.isSome then .ok u.normal else .ok (root.complete u).normal

/-- The reference to the whole document. -/
def whole (u : Uri) : Uri := { u with fragment := none }

/-- The text before the last `#` and the fragment behind it. -/
def cutFragment (s : List Char) : List Char × List Char :=
  let after := (s.reverse.takeWhile (· ≠ '#')).reverse
  if after.length = s.length then (s, []) else (s.take (s.length - after.length - 1), after)

end Uri

end ModelForge
