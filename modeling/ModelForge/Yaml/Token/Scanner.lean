import ModelForge.Yaml.Token.Scalar
import ModelForge.Yaml.Token.Tag
/-!
Splitting a YAML text into tokens. Whether a scalar is a key is known only at a later colon, so
on each level of brackets the scanner remembers one place where a key may have begun; when the
colon comes it inserts the key token there.
-/

namespace ModelForge.Yaml

/-- A place where a key may have begun. Where the indentation demands a key it is required. -/
structure PossibleKey where
  required : Bool
  number   : Nat
  mark     : Mark

structure Scanner where
  cursor     : Cursor
  tokens     : Array Token := #[]
  /-- The possible keys of the levels of brackets, the innermost first. -/
  keys       : List (Option PossibleKey) := [none]
  keyAllowed : Bool := true
  /-- The column of the innermost block, and of those around it. -/
  indent     : Int := -1
  outer      : List Int := []

namespace Scanner

def inFlow (s : Scanner) : Bool := s.keys.length > 1

def push (s : Scanner) (t : Token) : Scanner := { s with tokens := s.tokens.push t }

def pushHere (s : Scanner) (k : TokenKind) : Scanner :=
  s.push ⟨k, s.cursor.mark, s.cursor.mark⟩

/-- Passes some characters, which are a token of their own. -/
def take (s : Scanner) (n : Nat) (k : TokenKind) : Scanner :=
  let c := s.cursor.skipMany n
  { s.push ⟨k, s.cursor.mark, c.mark⟩ with cursor := c }

def missingColon {α : Type} (s : Scanner) (k : PossibleKey) : Except Problem α :=
  fail s.cursor "while scanning a simple key" k.mark "could not find expected ':'"

/-- Gives up the possible key of the innermost level. -/
def dropKey (s : Scanner) : Except Problem Scanner :=
  match s.keys with
  | some k :: rest => if k.required then s.missingColon k else .ok { s with keys := none :: rest }
  | _ => .ok s

/-- A key begins and ends on one line, within 1024 characters. -/
def isStale (s : Scanner) (k : PossibleKey) : Bool :=
  k.mark.line < s.cursor.mark.line || k.mark.index + 1024 < s.cursor.mark.index

/-- Gives up the possible keys that are too far away. The outermost required one is reported. -/
def dropStaleKeys (s : Scanner) : Except Problem Scanner :=
  match s.keys.reverse.findSome? fun k => k.filter fun k => k.required && s.isStale k with
  | some k => s.missingColon k
  | none => .ok { s with keys := s.keys.map fun k => k.filter fun k => !s.isStale k }

/-- Remembers that a key may begin here. -/
def saveKey (s : Scanner) : Except Problem Scanner :=
  if !s.keyAllowed then .ok s
  else do
    let key : PossibleKey :=
      { required := !s.inFlow && s.indent = s.cursor.mark.column,
        number := s.tokens.size, mark := s.cursor.mark }
    let s ← s.dropKey
    .ok { s with keys := some key :: s.keys.drop 1 }

/-- Ends the blocks that are indented deeper than a column. -/
def unroll (fuel : Nat) (s : Scanner) (column : Int) : Scanner :=
  match fuel with
  | 0 => s
  | fuel + 1 =>
    if s.inFlow || s.indent ≤ column then s
    else
      let s := s.pushHere .blockEnd
      unroll fuel { s with indent := s.outer.headD (-1), outer := s.outer.drop 1 } column

def unrollTo (s : Scanner) (column : Int) : Scanner := s.unroll (s.outer.length + 1) column

/-- Begins a block at a column if it is indented deeper; the token goes to its place. -/
def roll (s : Scanner) (column : Nat) (number : Nat) (k : TokenKind) (mark : Mark) : Scanner :=
  if s.inFlow || s.indent ≥ column then s
  else
    { s with
      indent := column
      outer := s.indent :: s.outer
      tokens := s.tokens.insertIdxIfInBounds number ⟨k, mark, mark⟩ }

/-- Passes white space and comments. Outside brackets a new line may begin a key. -/
def skipToToken (fuel : Nat) (s : Scanner) : Scanner :=
  match fuel with
  | 0 => s
  | fuel + 1 =>
    let c := if s.cursor.mark.index = 0 && s.cursor.at? '\uFEFF' then s.cursor.skip else s.cursor
    let tabs := s.inFlow || !s.keyAllowed
    let c := (c.skipWhile fun x => x = ' ' || (tabs && x = '\t')).skipComment
    if c.isBreak then
      skipToToken fuel { s with cursor := c.skipLine, keyAllowed := s.keyAllowed || !s.inFlow }
    else { s with cursor := c }

def notAllowed {α : Type} (s : Scanner) (problem : String) : Except Problem α :=
  .error { problem, mark := s.cursor.mark }

def fetchStreamEnd (s : Scanner) : Except Problem Scanner := do
  let m := s.cursor.mark
  let m := if m.column = 0 then m else ⟨m.index, m.line + 1, 0⟩
  let s := { s with cursor := { s.cursor with mark := m } }
  let s ← (s.unrollTo (-1)).dropKey
  .ok ({ s with keyAllowed := false }.pushHere .streamEnd)

def fetchDirective (s : Scanner) : Except Problem Scanner := do
  let s ← (s.unrollTo (-1)).dropKey
  let (t, c) ← readDirective s.cursor
  .ok ({ s with cursor := c, keyAllowed := false }.push t)

def fetchDocumentIndicator (s : Scanner) (k : TokenKind) : Except Problem Scanner := do
  let s ← (s.unrollTo (-1)).dropKey
  .ok ({ s with keyAllowed := false }.take 3 k)

def fetchFlowStart (s : Scanner) (k : TokenKind) : Except Problem Scanner := do
  let s ← s.saveKey
  .ok ({ s with keys := none :: s.keys, keyAllowed := true }.take 1 k)

def fetchFlowEnd (s : Scanner) (k : TokenKind) : Except Problem Scanner := do
  let s ← s.dropKey
  let keys := if s.inFlow then s.keys.drop 1 else s.keys
  .ok ({ s with keys, keyAllowed := false }.take 1 k)

def fetchFlowEntry (s : Scanner) : Except Problem Scanner := do
  let s ← s.dropKey
  .ok ({ s with keyAllowed := true }.take 1 .flowEntry)

def fetchBlockEntry (s : Scanner) : Except Problem Scanner := do
  if !s.inFlow && !s.keyAllowed then
    s.notAllowed "block sequence entries are not allowed in this context"
  else
    let s ← (s.roll s.cursor.mark.column s.tokens.size .blockSequenceStart s.cursor.mark).dropKey
    .ok ({ s with keyAllowed := true }.take 1 .blockEntry)

def fetchKey (s : Scanner) : Except Problem Scanner := do
  if !s.inFlow && !s.keyAllowed then
    s.notAllowed "mapping keys are not allowed in this context"
  else
    let s ← (s.roll s.cursor.mark.column s.tokens.size .blockMappingStart s.cursor.mark).dropKey
    .ok ({ s with keyAllowed := !s.inFlow }.take 1 .key)

def fetchValue (s : Scanner) : Except Problem Scanner :=
  match s.keys with
  | some k :: rest =>
    let s := { s with tokens := s.tokens.insertIdxIfInBounds k.number ⟨.key, k.mark, k.mark⟩ }
    let s := s.roll k.mark.column k.number .blockMappingStart k.mark
    .ok ({ s with keys := none :: rest, keyAllowed := false }.take 1 .value)
  | _ =>
    if !s.inFlow && !s.keyAllowed then
      s.notAllowed "mapping values are not allowed in this context"
    else
      let s := s.roll s.cursor.mark.column s.tokens.size .blockMappingStart s.cursor.mark
      .ok ({ s with keyAllowed := !s.inFlow }.take 1 .value)

/-- Fetches an anchor, a tag or a quoted scalar: each may be a key or stand before one. -/
def fetchInline (s : Scanner) (read : Cursor → Except Problem (Token × Cursor)) : Except Problem Scanner := do
  let s ← s.saveKey
  let (t, c) ← read s.cursor
  .ok ({ s with cursor := c, keyAllowed := false }.push t)

def fetchBlockScalar (s : Scanner) (literal : Bool) : Except Problem Scanner := do
  let s ← s.dropKey
  let (t, c) ← readBlock literal s.indent s.cursor
  .ok ({ s with cursor := c, keyAllowed := true }.push t)

def fetchPlain (s : Scanner) : Except Problem Scanner := do
  let s ← s.saveKey
  let (t, onNewLine, c) ← readPlain s.inFlow s.indent s.cursor
  .ok ({ s with cursor := c, keyAllowed := onNewLine }.push t)

/-- The characters that begin no plain scalar, unless a rule of its own allows it. -/
def isIndicator (x : Char) : Bool :=
  ['-', '?', ':', ',', '[', ']', '\x7b', '\x7d', '#', '&', '*', '!', '|', '>', '\'', '"', '%', '@', '`'].contains x

def startsPlain (s : Scanner) : Bool :=
  let c := s.cursor
  (!c.isGap && !c.look 0 isIndicator) || (c.at? '-' && !c.look 1 Char.isBlank) ||
  (!s.inFlow && (c.at? '?' || c.at? ':') && !c.isGap 1)

/-- Fetches the token at the cursor, which stands neither on white space nor on a comment. -/
def fetchHere (s : Scanner) : Except Problem Scanner :=
  let c := s.cursor
  let lone := s.inFlow || c.isGap 1
  if c.isEnd then s.fetchStreamEnd
  else if c.mark.column = 0 && c.at? '%' then s.fetchDirective
  else if c.isDocumentIndicator '-' then s.fetchDocumentIndicator .documentStart
  else if c.isDocumentIndicator '.' then s.fetchDocumentIndicator .documentEnd
  else if c.at? '[' then s.fetchFlowStart .flowSequenceStart
  else if c.at? '\x7b' then s.fetchFlowStart .flowMappingStart
  else if c.at? ']' then s.fetchFlowEnd .flowSequenceEnd
  else if c.at? '\x7d' then s.fetchFlowEnd .flowMappingEnd
  else if c.at? ',' then s.fetchFlowEntry
  else if c.at? '-' && c.isGap 1 then s.fetchBlockEntry
  else if c.at? '?' && lone then s.fetchKey
  else if c.at? ':' && lone then s.fetchValue
  else if c.at? '*' then s.fetchInline (readAnchor true)
  else if c.at? '&' then s.fetchInline (readAnchor false)
  else if c.at? '!' then s.fetchInline (readTag s.inFlow)
  else if c.at? '|' && !s.inFlow then s.fetchBlockScalar true
  else if c.at? '>' && !s.inFlow then s.fetchBlockScalar false
  else if c.at? '\'' then s.fetchInline (readQuoted true)
  else if c.at? '"' then s.fetchInline (readQuoted false)
  else if s.startsPlain then s.fetchPlain
  else fail c "while scanning for the next token" c.mark "found character that cannot start any token"

def fetchNext (s : Scanner) : Except Problem Scanner := do
  let s ← (s.skipToToken s.cursor.fuel).dropStaleKeys
  (← (s.unrollTo s.cursor.mark.column).fetchHere).dropStaleKeys

/-- The number of tokens that no later colon can push back. -/
def settled (s : Scanner) : Nat :=
  s.keys.foldl (fun n k => k.elim n fun k => min n k.number) s.tokens.size

def isDone (s : Scanner) : Bool := s.tokens.back?.any (·.kind == .streamEnd)

/-- Fetches tokens up to the end of the text or the first problem. With a problem only the
tokens are given that were settled before. -/
def run (fuel : Nat) (s : Scanner) : List Token × Option Problem :=
  match fuel with
  | 0 => (s.tokens.toList, none)
  | fuel + 1 =>
    match s.fetchNext with
    | .error p => (s.tokens.toList.take s.settled, some p)
    | .ok s' => if s'.isDone then (s'.tokens.toList, none) else run fuel s'

end Scanner

/-- Characters that a YAML text may hold. -/
def isAllowed (c : Char) : Bool :=
  let n := c.toNat
  n = 9 || n = 10 || n = 13 || (0x20 ≤ n && n ≤ 0x7E) || n = 0x85 || (0xA0 ≤ n && n ≤ 0xD7FF) ||
  (0xE000 ≤ n && n ≤ 0xFFFD) || 0x10000 ≤ n

/-- The tokens of a text, and the problem that ended them. A forbidden character anywhere
leaves no token. -/
def tokens (text : String) : List Token × Option Problem :=
  let before := text.toList.takeWhile isAllowed
  if before.length < text.length then
    let offset := before.foldl (fun n c => n + c.utf8Size) 0
    ([], some { problem := "control characters are not allowed", mark := {}, offset })
  else
    let s : Scanner := { cursor := { rest := text.toList } }
    (s.pushHere .streamStart).run (4 * text.length + 16)

end ModelForge.Yaml
