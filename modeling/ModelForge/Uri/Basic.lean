import ModelForge.Uri.Address
/-!
References between documents: their parts, what is wrong with a text that is none, and the normal
form, in which equal references are equal texts.
-/

namespace ModelForge

structure Uri where
  scheme    : Option (List Char) := none
  authority : Option (List Char) := none
  path      : List Char := []
  query     : Option (List Char) := none
  fragment  : Option (List Char) := none
  deriving DecidableEq, Repr

/-- Why a text is no reference, with the number of characters before the place. -/
inductive UriFault
  | unexpected (index : Nat)
  | octet (index : Nat)
  | address (index : Nat)
  deriving DecidableEq, Repr

namespace UriFault

def message : UriFault → String
  | unexpected i => "unexpected character at index " ++ toString i
  | octet i => "invalid percent-encoded octet at index " ++ toString i
  | address i => "invalid IPv6 address at index " ++ toString i

end UriFault

namespace Uri

/-- Which characters may stand in a reference besides those of ASCII. -/
inductive Charset
  | ascii
  | international
  deriving DecidableEq

/-- Characters beyond ASCII that an international reference may hold; some only in its query. -/
def isInternational (inQuery : Bool) (c : Char) : Bool :=
  let n := c.toNat
  (0xA0 ≤ n && n ≤ 0xD7FF) || (0xF900 ≤ n && n ≤ 0xFDCF) || (0xFDF0 ≤ n && n ≤ 0xFFEF) ||
    (0x10000 ≤ n && n < 0xE0000 && n % 0x10000 < 0xFFFE) || (0xE1000 ≤ n && n < 0xEFFFE) ||
    (inQuery && ((0xE000 ≤ n && n ≤ 0xF8FF) || (0xF0000 ≤ n && n % 0x10000 < 0xFFFE)))

def isUnreserved (c : Char) : Bool := c.isAlphanum || c = '-' || c = '.' || c = '_' || c = '~'

def isSubDelimiter (c : Char) : Bool := "!$&'()*+,;=".toList.contains c

def isSchemeChar (c : Char) : Bool := c.isAlphanum || c = '+' || c = '-' || c = '.'

namespace Charset

def isNameChar (s : Charset) (c : Char) : Bool :=
  isUnreserved c || isSubDelimiter c || (s = .international && isInternational false c)

def isSegmentChar (s : Charset) (c : Char) : Bool := s.isNameChar c || c = ':' || c = '@'

def isPathChar (s : Charset) (c : Char) : Bool := s.isSegmentChar c || c = '/'

def isQueryChar (s : Charset) (c : Char) : Bool :=
  s.isPathChar c || c = '?' || (s = .international && isInternational true c)

def isFragmentChar (s : Charset) (c : Char) : Bool := s.isPathChar c || c = '?'

end Charset

/-- A fault told by the number of characters from its place on. -/
inductive Behind
  | unexpected (left : Nat)
  | octet (left : Nat)
  | address (left : Nat)

def unexpected {α : Type} (rest : List Char) : Except Behind α := .error (.unexpected rest.length)

/-- Takes allowed characters and bytes that are written as a percent sign and two digits. -/
def take (allowed : Char → Bool) : List Char → Except Behind (List Char × List Char)
  | '%' :: a :: b :: rest =>
    if Address.isHexDigit a && Address.isHexDigit b then
      (take allowed rest).map fun (s, rest) => ('%' :: a :: b :: s, rest)
    else .error (.octet (rest.length + 3))
  | c :: rest =>
    if c = '%' then .error (.octet (rest.length + 1))
    else if allowed c then (take allowed rest).map fun (s, rest) => (c :: s, rest)
    else .ok ([], c :: rest)
  | [] => .ok ([], [])

/-- An address in square brackets behind the opening one. -/
def bracketed (cs : List Char) : Except Behind (List Char × List Char) :=
  let close (address rest : List Char) : Except Behind (List Char × List Char) :=
    match rest with
    | ']' :: behind => .ok ('[' :: address ++ [']'], behind)
    | _ => unexpected rest
  let address := cs.takeWhile fun c => Address.isHexDigit c || c = ':' || c = '.'
  match cs with
  | 'v' :: rest =>
    let version := rest.takeWhile Address.isHexDigit
    match rest.drop version.length with
    | '.' :: behind =>
      let name := behind.takeWhile fun c => isUnreserved c || isSubDelimiter c || c = ':'
      if version = [] || name = [] then unexpected rest
      else close ('v' :: version ++ '.' :: name) (behind.drop name.length)
    | rest => unexpected rest
  | _ =>
    if address = [] then unexpected cs
    else if Address.isVersion6 address then close address (cs.drop address.length)
    else .error (.address cs.length)

/-- A port behind a host, if there is one. -/
def port (cs : List Char) : List Char × List Char :=
  match cs with
  | ':' :: rest => (':' :: rest.takeWhile Char.isDigit, rest.dropWhile Char.isDigit)
  | _ => ([], cs)

/-- The host and the port behind user information. -/
def hostAndPort (s : Charset) (cs : List Char) : Except Behind (List Char × List Char) := do
  let (host, rest) ← match cs with
    | '[' :: rest => bracketed rest
    | _ => take s.isNameChar cs
  let (port, rest) := port rest
  return (host ++ port, rest)

/-- The authority behind two slashes, up to the path. -/
def authorityPart (s : Charset) (cs : List Char) : Except Behind (List Char × List Char) := do
  let (name, rest) ← take (fun c => s.isNameChar c || c = ':') cs
  match rest with
  | '@' :: rest =>
    let (host, rest) ← hostAndPort s rest
    return (name ++ '@' :: host, rest)
  | _ =>
    if name = [] then
      match rest with
      | '[' :: _ => hostAndPort s rest
      | _ => return ([], rest)
    else
      -- One colon may stand in front of a port, which has digits only.
      match name.count ':' with
      | 0 => return (name, rest)
      | 1 =>
        let host := name.takeWhile (· ≠ ':')
        let digits := name.drop (host.length + 1)
        let good := digits.takeWhile Char.isDigit
        if good.length = digits.length then return (name, rest)
        else unexpected (digits.drop good.length ++ rest)
      | _ => unexpected (':' :: (name.reverse.takeWhile (· ≠ ':')).reverse ++ rest)

def queryPart (s : Charset) (cs : List Char) : Except Behind (Option (List Char) × List Char) :=
  match cs with
  | '?' :: rest => (take s.isQueryChar rest).map fun (q, rest) => (some q, rest)
  | _ => .ok (none, cs)

def fragmentPart (s : Charset) (cs : List Char) : Except Behind (Option (List Char) × List Char) :=
  match cs with
  | '#' :: rest => (take s.isFragmentChar rest).map fun (f, rest) => (some f, rest)
  | _ => .ok (none, cs)

/-- Everything behind the scheme, or all of a reference that has none. -/
def behindScheme (s : Charset) (scheme : Option (List Char)) (cs : List Char) : Except Behind Uri := do
  let (authority, path, rest) ← match cs with
    | '/' :: '/' :: rest => do
      let (authority, rest) ← authorityPart s rest
      let (path, behind) ← take s.isPathChar rest
      if path ≠ [] && path.head? ≠ some '/' then
        throw (.unexpected rest.length)
      pure (some authority, path, behind)
    | _ => do
      if scheme.isNone then
        -- A colon in the first segment would end a scheme.
        let (_, rest) ← take (fun c => s.isSegmentChar c && c ≠ ':') cs
        if rest.head? = some ':' then
          throw (.unexpected rest.length)
      let (path, rest) ← take s.isPathChar cs
      pure (none, path, rest)
  let (query, rest) ← queryPart s rest
  let (fragment, rest) ← fragmentPart s rest
  if rest = [] then return ⟨scheme, authority, path, query, fragment⟩ else throw (.unexpected rest.length)

/-- Reads a reference; whether it is in normal form is left open. -/
def read (s : Charset) (text : List Char) : Except UriFault Uri :=
  let name := text.takeWhile isSchemeChar
  let result := match text.drop name.length with
    | ':' :: rest =>
      if name.head?.any Char.isAlpha then behindScheme s (some name) rest
      else .error (.unexpected text.length)
    | _ => behindScheme s none text
  match result with
  | .ok u => .ok u
  | .error (.unexpected left) => .error (.unexpected (text.length - left))
  | .error (.octet left) => .error (.octet (text.length - left))
  | .error (.address left) => .error (.address (text.length - left))

def text (u : Uri) : String :=
  let part (before after : List Char) : Option (List Char) → List Char
    | some s => before ++ s ++ after
    | none => []
  String.ofList (part [] [':'] u.scheme ++ part ['/', '/'] [] u.authority ++ u.path ++ part ['?'] [] u.query ++
    part ['#'] [] u.fragment)

def hexValue (c : Char) : Nat :=
  if c.isDigit then c.toNat - 48 else if c.isUpper then c.toNat - 55 else c.toNat - 87

/-- Writes characters that need no percent sign as they are, and all other escapes with capitals. -/
def normalEscapes : List Char → List Char
  | '%' :: a :: b :: rest =>
    let c := Char.ofNat (16 * hexValue a + hexValue b)
    if isUnreserved c then c :: normalEscapes rest
    else '%' :: a.toUpper :: b.toUpper :: normalEscapes rest
  | c :: rest => c :: normalEscapes rest
  | [] => []

/-- Small letters everywhere but in escapes. -/
def lowerOutside : List Char → List Char
  | '%' :: a :: b :: rest => '%' :: a :: b :: lowerOutside rest
  | c :: rest => c.toLower :: lowerOutside rest
  | [] => []

/-- A host in small letters; a colon with no port behind it goes. -/
def normalAuthority (authority : List Char) : List Char :=
  let user := authority.takeWhile (· ≠ '@')
  let (user, host) := if user.length < authority.length then (user ++ ['@'], authority.drop (user.length + 1)) else ([], authority)
  let host := if host.getLast? = some ':' then host.dropLast else host
  normalEscapes user ++ lowerOutside (normalEscapes host)

def segments (path : List Char) : List (List Char) := Address.splitOn '/' path

def joinSegments : List (List Char) → List Char
  | [] => []
  | [s] => s
  | s :: t :: more => s ++ '/' :: joinSegments (t :: more)

/-- Goes up one segment, but not above the root. -/
def dropLastSegment (before : List (List Char)) : List (List Char) :=
  if before.length > 1 then before.drop 1 else before

/-- The segments of a path, with `.` and `..` carried out; the segments before are given in
reverse. -/
def removeDots (before : List (List Char)) : List (List Char) → List (List Char)
  | [] => before.reverse
  | s :: rest =>
    let kept := if s = ['.'] then before else if s = ['.', '.'] then dropLastSegment before else s :: before
    -- A dot at the end leaves an empty segment, so that the path still ends in a slash.
    if rest = [] && (s = ['.'] || s = ['.', '.']) then ([] :: kept).reverse else removeDots kept rest

/-- Carries out the dots in a path that begins at the root. -/
def plainPath (path : List Char) : List Char :=
  if path.head? = some '/' then joinSegments (removeDots [] (segments path)) else path

def normal (u : Uri) : Uri where
  scheme := u.scheme.map (·.map Char.toLower)
  authority := u.authority.map normalAuthority
  path := plainPath (normalEscapes u.path)
  query := u.query.map normalEscapes
  fragment := u.fragment.map normalEscapes

end Uri

end ModelForge
