import ModelForge.Pattern.Property
/-!
Escapes: what stands behind a backslash in the common notation of patterns, in which everything
unknown is refused.
-/

namespace ModelForge.Pattern

/-- Which characters the letters for digits, blanks and word characters stand for. -/
inductive Alphabet
  /-- Those of old, mostly ASCII. -/
  | plain
  | unicode
  deriving DecidableEq, Repr

/-- How a part of a pattern is read. -/
structure Reading where
  alphabet   : Alphabet := .plain
  ignoreCase : Bool := false
  /-- Blanks and comments count for nothing. -/
  spaced     : Bool := false

/-- Why a text is not a pattern in the common notation. -/
inductive Fault
  | broken
  /-- It asks what stands around or has matched before, which the common notation leaves out. -/
  | extended
  /-- The letter `c` is escaped, with so many characters behind it. -/
  | control (behind : Nat)
  deriving DecidableEq, Repr

namespace Alphabet

def asciiWord : CharSet := .ranges [(48, 57), (65, 90), (95, 95), (97, 122)]

def asciiDigit : CharSet := .ranges [(48, 57)]

def plainBlank : CharSet := .ranges [(9, 13), (32, 32), (0xA0, 0xA0), (0x2003, 0x2003), (0x2029, 0x2029),
  (0xFEFF, 0xFEFF)]

/-- The set that a letter stands for; its capital stands for all other characters. -/
def set? (a : Alphabet) (ignoreCase : Bool) (letter : Char) : Option CharSet :=
  let base : Option CharSet := match a, letter.toLower with
    | plain, 'd' => some asciiDigit
    | plain, 's' => some plainBlank
    | plain, 'w' => some (asciiWord.foldedIf ignoreCase)
    | unicode, 'd' => some .digit
    | unicode, 's' => some .whiteSpace
    | unicode, 'w' => some .word
    | _, _ => none
  base.map (.complementIf letter.isUpper)

end Alphabet

namespace Reading

/-- The text behind blanks and comments, where these count for nothing. -/
def skip (r : Reading) (cs : List Char) : List Char :=
  if r.spaced then blanks false cs else cs
where
  blanks (inComment : Bool) : List Char → List Char
    | [] => []
    | c :: rest =>
      if inComment then blanks (c ≠ '\n') rest
      else if Text.isWhiteSpace c then blanks false rest
      else if c = '#' then blanks true rest
      else c :: rest

end Reading

def hexValue? (c : Char) : Option Nat :=
  if '0' ≤ c && c ≤ '9' then some (c.toNat - 48)
  else if 'a' ≤ c && c ≤ 'f' then some (c.toNat - 87)
  else if 'A' ≤ c && c ≤ 'F' then some (c.toNat - 55)
  else none

def hexNumber? (ds : List Char) : Option Nat :=
  if ds = [] then none
  else ds.foldl (fun n c => n.bind fun n => (hexValue? c).map (16 * n + ·)) (some 0)

/-- The character whose code point the digits write, if there is one. -/
def hexChar? (ds : List Char) : Option Char :=
  (hexNumber? ds).bind fun n => if n.isValidChar then some (Char.ofNat n) else none

/-- What stands behind a backslash. -/
inductive Escape
  | char (c : Char)
  | set (s : CharSet)
  | assertion

namespace Escape

/-- So many digits, with blanks between them passed over where they count for nothing. -/
def digits (r : Reading) : Nat → List Char → Option (List Char × List Char)
  | 0, cs => some ([], cs)
  | n + 1, cs =>
    match cs with
    | [] => none
    | c :: rest => (digits r n (r.skip rest)).map fun (ds, rest) => (c :: ds, rest)

/-- Everything up to a closing brace. -/
def braced (r : Reading) : Nat → List Char → Option (List Char × List Char)
  | 0, _ => none
  | fuel + 1, cs =>
    match r.skip cs with
    | [] => none
    | '\x7d' :: rest => some ([], rest)
    | c :: rest => (braced r fuel rest).map fun (inside, rest) => (c :: inside, rest)

/-- A code point in so many hexadecimal digits or in braces. -/
def hex (r : Reading) (n : Nat) (cs : List Char) : Except Fault (Escape × List Char) :=
  let number := match r.skip cs with
    | '\x7b' :: rest => braced r rest.length rest
    | cs => digits r n cs
  match number.bind fun (ds, rest) => (hexChar? ds).map (·, rest) with
  | some (c, rest) => .ok (.char c, r.skip rest)
  | none => .error .broken

/-- A Unicode property by one letter or in braces. -/
def property (r : Reading) (negated : Bool) (cs : List Char) : Except Fault (Escape × List Char) :=
  let found := match r.skip cs with
    | '\x7b' :: rest => (braced r (rest.length + 1) rest).bind fun (name, rest) => (setOf? name).map fun s => (s, rest)
    | '\\' :: _ => none
    | c :: rest => (Property.named? (String.singleton c)).map (·, rest)
    | [] => none
  match found with
  | some (s, rest) => .ok (.set ((s.foldedIf r.ignoreCase).complementIf negated), rest)
  | none => .error .broken
where
  setOf? (name : List Char) : Option CharSet :=
    let cut (n : Nat) (skip : Nat) : Option CharSet :=
      Property.valued? (String.ofList (name.take n)) (String.ofList (name.drop (n + skip)))
    match unequal? name with
    | some n => cut n 2
    | none =>
      match name.findIdx? (· = ':') <|> name.findIdx? (· = '=') with
      | some n => cut n 1
      | none => Property.named? (String.ofList name)
  /-- The place of the first `!=`. -/
  unequal? : List Char → Option Nat
    | '!' :: '=' :: _ => some 0
    | _ :: rest => (unequal? rest).map (· + 1)
    | [] => none

/-- Punctuation may always be escaped, but for the two signs that stand for ends of words. -/
def isPunctuation (c : Char) : Bool := c.toNat < 128 && !c.isAlphanum && c ≠ '<' && c ≠ '>'

/-- Letters for characters that are hard to write. -/
def named? (c : Char) : Option Char :=
  match c with
  | 'a' => some '\x07'
  | 'f' => some '\x0c'
  | 'n' => some '\n'
  | 'r' => some '\r'
  | 't' => some '\t'
  | 'v' => some '\x0b'
  | _ => none

/-- Reads what stands behind a backslash. -/
def read (r : Reading) (cs : List Char) : Except Fault (Escape × List Char) :=
  match cs with
  | [] => .error .broken
  | 'x' :: rest => hex r 2 rest
  | 'u' :: rest => hex r 4 rest
  | 'U' :: rest => hex r 8 rest
  | 'p' :: rest => property r false rest
  | 'P' :: rest => property r true rest
  | c :: rest =>
    if c.isDigit then .error .extended
    else if let some s := r.alphabet.set? r.ignoreCase c then .ok (.set s, rest)
    else if isPunctuation c then .ok (.char c, rest)
    else if let some d := named? c then .ok (.char d, rest)
    else if ['A', 'z', 'b', 'B', '<', '>'].contains c then .ok (.assertion, rest)
    else if c = 'c' then .error (.control rest.length)
    else .error .broken

end Escape

end ModelForge.Pattern
