import ModelForge.Text.Letters
import ModelForge.Uri.Address
/-!
Names of hosts and addresses of mail.
-/

namespace ModelForge.Grammar.Mail

/-- Labels of letters, digits and dashes with dots between them. -/
def isHostname (cs : List Char) : Bool :=
  cs ≠ [] && cs.head? ≠ some '-' && cs.getLast? ≠ some '-' && cs.length ≤ 255 &&
    cs.all (fun c => Text.isAlphanumeric c || c = '-' || c = '.') &&
    (Address.splitOn '.' cs).all (·.length ≤ 63)

def isBeyondAscii (c : Char) : Bool := c.toNat ≥ 0x80

def isAtomChar (c : Char) : Bool :=
  c.isAlphanum || "!#$%&'*+-/=?^_\x60\x7b|\x7d~".toList.contains c || isBeyondAscii c

def isAtom (cs : List Char) : Bool := cs ≠ [] && cs.all isAtomChar

def byteCount (cs : List Char) : Nat := (String.ofList cs).utf8ByteSize

/-- The inside of a quoted name, where a backslash makes any printable character plain. -/
def isQuotable : List Char → Bool
  | '\\' :: c :: rest => '!' ≤ c && c ≤ '~' && isQuotable rest
  | c :: rest => (c = '\t' || (' ' ≤ c && c ≤ '~' && c ≠ '"' && c ≠ '\\') || isBeyondAscii c) && isQuotable rest
  | [] => true

/-- What may stand before the at sign. -/
def isLocalPart (cs : List Char) : Bool :=
  byteCount cs ≤ 64 &&
    if cs.head? = some '"' && cs.getLast? = some '"' then
      cs.length > 2 && isQuotable ((cs.drop 1).dropLast)
    else (Address.splitOn '.' cs).all isAtom

def isLabel (cs : List Char) : Bool :=
  isAtom cs && byteCount cs ≤ 63 && cs.head?.any Text.isAlphanumeric && cs.getLast?.any Text.isAlphanumeric

/-- What may stand behind the at sign: a name of a host, or an address in square brackets. -/
def isDomain (cs : List Char) : Bool :=
  byteCount cs ≤ 254 &&
    if cs.head? = some '[' && cs.getLast? = some ']' then
      let inner := (cs.drop 1).dropLast
      let version6 := "IPv6:".toList
      if version6.isPrefixOf inner then Address.isVersion6 (inner.drop version6.length)
      else Address.isVersion4 inner
    else (Address.splitOn '.' cs).all isLabel && isHostname cs

/-- What stands behind the last blank with an opening angle bracket. -/
def behindBracket? : List Char → Option (List Char)
  | ' ' :: '<' :: rest => some ((behindBracket? rest).getD rest)
  | _ :: rest => behindBracket? rest
  | [] => none

/-- The address behind a name to show, which stands in angle brackets; none if they do not close. -/
def withoutName? (cs : List Char) : Option (List Char) :=
  match behindBracket? cs with
  | none => some cs
  | some inner =>
    let closed := inner.reverse.dropWhile Text.isWhiteSpace
    if closed.head? = some '>' then some ((closed.drop 1).reverse.dropWhile Text.isWhiteSpace) else none

/-- An address of mail, split at its last at sign. -/
def isAddress (cs : List Char) : Bool :=
  (withoutName? cs).any fun cs =>
    let domain := (cs.reverse.takeWhile (· ≠ '@')).reverse
    domain.length < cs.length && isLocalPart (cs.take (cs.length - domain.length - 1)) && isDomain domain

end ModelForge.Grammar.Mail
