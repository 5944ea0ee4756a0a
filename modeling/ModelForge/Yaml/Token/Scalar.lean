import ModelForge.Yaml.Token
/-!
Reading scalars. A line break inside a scalar is folded: alone it becomes a space, and of several
the first is dropped. In a literal block all line breaks stay.
-/

namespace ModelForge.Yaml

/-- White space met between two pieces of a scalar: blanks on one line, or line breaks, of
which the first is kept apart. -/
structure Gap where
  blanks   : List Char := []
  first    : List Char := []
  further  : List Char := []
  /-- A line break was passed. -/
  onNewLine : Bool := false

namespace Gap

/-- What the gap leaves in a flow scalar. -/
def fold (g : Gap) : List Char :=
  if g.onNewLine then
    if g.first.head? = some '\n' then if g.further.isEmpty then [' '] else g.further
    else g.first ++ g.further
  else g.blanks

end Gap

/-- Reads the blanks and line breaks that follow. `forbidden` refuses a place for a blank. -/
def readGap (fuel : Nat) (forbidden : Gap → Cursor → Bool) (g : Gap) (c : Cursor) :
    Except Cursor (Gap × Cursor) :=
  match fuel with
  | 0 => .ok (g, c)
  | fuel + 1 =>
    match c.rest with
    | [] => .ok (g, c)
    | x :: _ =>
      if Char.isBlank x then
        if forbidden g c then .error c
        else readGap fuel forbidden (if g.onNewLine then g else { g with blanks := g.blanks ++ [x] }) c.skip
      else if Char.isBreak x then
        if g.onNewLine then
          readGap fuel forbidden { g with further := g.further ++ c.lineBreak } c.skipLine
        else
          readGap fuel forbidden { g with blanks := [], first := c.lineBreak, onNewLine := true } c.skipLine
      else .ok (g, c)

/-- The character of a one-letter escape. -/
def simpleEscape? (x : Char) : Option Char :=
  match x with
  | '0' => some '\x00'
  | 'a' => some '\x07'
  | 'b' => some '\x08'
  | 't' => some '\t'
  | '\t' => some '\t'
  | 'n' => some '\n'
  | 'v' => some '\x0b'
  | 'f' => some '\x0c'
  | 'r' => some '\r'
  | 'e' => some '\x1b'
  | ' ' => some ' '
  | '"' => some '"'
  | '/' => some '/'
  | '\\' => some '\\'
  | 'N' => some '\u0085'
  | '_' => some '\u00a0'
  | 'L' => some '\u2028'
  | 'P' => some '\u2029'
  | _ => none

/-- The number of hexadecimal digits of an escape. -/
def escapeLength? (x : Char) : Option Nat :=
  match x with
  | 'x' => some 2
  | 'u' => some 4
  | 'U' => some 8
  | _ => none

/-- Reads an escape sequence at a backslash. -/
def readQuotedEscape (since : Mark) (c : Cursor) : Except Problem (Char × Cursor) :=
  let doing := "while parsing a quoted scalar"
  match c.rest[1]? with
  | none => fail c doing since "found unknown escape character"
  | some x =>
    match simpleEscape? x, escapeLength? x with
    | some y, _ => .ok (y, c.skipMany 2)
    | none, none => fail c doing since "found unknown escape character"
    | none, some n =>
      let c := c.skipMany 2
      let digits := c.rest.take n
      match digits.mapM Char.hexValue? with
      | some ds =>
        let value := ds.foldl (16 * · + ·) 0
        if digits.length < n then fail c doing since "did not find expected hexadecimal number"
        else if (0xD800 ≤ value && value ≤ 0xDFFF) || value > 0x10FFFF then
          fail c doing since "found invalid Unicode character escape code"
        else .ok (Char.ofNat value, c.skipMany n)
      | none => fail c doing since "did not find expected hexadecimal number"

/-- A piece of a quoted scalar up to white space or the closing quote; the flag tells that it
ended with an escaped line break. -/
def readQuotedPiece (fuel : Nat) (single : Bool) (since : Mark) (acc : List Char) (c : Cursor) :
    Except Problem (List Char × Bool × Cursor) :=
  match fuel with
  | 0 => .ok (acc, false, c)
  | fuel + 1 =>
    if c.isGap then .ok (acc, false, c)
    else
      match c.rest with
      | [] => .ok (acc, false, c)
      | x :: _ =>
        if single && x = '\'' && c.look 1 (· == '\'') then
          readQuotedPiece fuel single since ('\'' :: acc) (c.skipMany 2)
        else if x = (if single then '\'' else '"') then .ok (acc, false, c)
        else if !single && x = '\\' && c.look 1 Char.isBreak then .ok (acc, true, c.skip.skipLine)
        else if !single && x = '\\' then do
          let (y, c') ← readQuotedEscape since c
          readQuotedPiece fuel single since (y :: acc) c'
        else readQuotedPiece fuel single since (x :: acc) c.skip

/-- The body of a quoted scalar behind its opening quote. -/
def readQuotedBody (fuel : Nat) (single : Bool) (since : Mark) (acc : List Char) (c : Cursor) :
    Except Problem (List Char × Cursor) :=
  match fuel with
  | 0 => .ok (acc, c)
  | fuel + 1 =>
    let doing := "while scanning a quoted scalar"
    if c.isDocumentIndicator '-' || c.isDocumentIndicator '.' then
      fail c doing since "found unexpected document indicator"
    else if c.isEnd then fail c doing since "found unexpected end of stream"
    else do
      let (acc, escapedBreak, c) ← readQuotedPiece c.fuel single since acc c
      if c.at? (if single then '\'' else '"') then .ok (acc, c.skip)
      else
        match readGap c.fuel (fun _ _ => false) { onNewLine := escapedBreak } c with
        | .error c => .ok (acc, c)
        | .ok (gap, c) => readQuotedBody fuel single since (gap.fold.reverse ++ acc) c

/-- Reads a quoted scalar at its opening quote. -/
def readQuoted (single : Bool) (c : Cursor) : Except Problem (Token × Cursor) := do
  let (acc, c') ← readQuotedBody c.fuel single c.mark [] c.skip
  let style := if single then ScalarStyle.singleQuoted else .doubleQuoted
  .ok (⟨.scalar (String.ofList acc.reverse) style, c.mark, c'.mark⟩, c')

/-- Characters that end a plain scalar inside brackets or braces. -/
def isFlowIndicator (x : Char) : Bool := x = ',' || x = '[' || x = ']' || x = '\x7b' || x = '\x7d'

/-- Whether a plain scalar ends before the next character. -/
def endsPlain (inFlow : Bool) (c : Cursor) : Bool :=
  (c.at? ':' && c.isGap 1) || (inFlow && c.look 0 isFlowIndicator)

/-- A plain scalar while it is read: its text, backwards, and where that ends. -/
structure PlainText where
  text : List Char
  stop : Mark
  gap  : Gap := {}

/-- A piece of a plain scalar up to white space or what ends the scalar. -/
def readPlainPiece (fuel : Nat) (inFlow : Bool) (since : Mark) (p : PlainText) (c : Cursor) :
    Except Problem (PlainText × Cursor) :=
  match fuel with
  | 0 => .ok (p, c)
  | fuel + 1 =>
    if c.isGap then .ok (p, c)
    else if inFlow && c.at? ':' && c.look 1 (fun x => isFlowIndicator x || x == '?') then
      fail c "while scanning a plain scalar" since "found unexpected ':'"
    else if endsPlain inFlow c then .ok (p, c)
    else
      let text := c.rest.take 1 ++ p.gap.fold.reverse ++ p.text
      readPlainPiece fuel inFlow since { text, stop := c.skip.mark } c.skip

/-- The whole of a plain scalar. Its lines are indented at least to `indent` outside brackets. -/
def readPlainBody (fuel : Nat) (inFlow : Bool) (indent : Int) (since : Mark) (p : PlainText) (c : Cursor) :
    Except Problem (PlainText × Cursor) :=
  match fuel with
  | 0 => .ok (p, c)
  | fuel + 1 =>
    if c.isDocumentIndicator '-' || c.isDocumentIndicator '.' || c.at? '#' then .ok (p, c)
    else do
      let (p, c) ← readPlainPiece c.fuel inFlow since p c
      if !(c.isBlank || c.isBreak) then .ok (p, c)
      else
        let tabInIndent (g : Gap) (c : Cursor) : Bool :=
          g.onNewLine && (c.mark.column : Int) < indent && c.at? '\t'
        match readGap c.fuel tabInIndent p.gap c with
        | .error c =>
          fail c "while scanning a plain scalar" since "found a tab character that violates indentation"
        | .ok (gap, c) =>
          if !inFlow && (c.mark.column : Int) < indent then .ok ({ p with gap }, c)
          else readPlainBody fuel inFlow indent since { p with gap } c

/-- Reads a plain scalar. The flag tells that it ended behind a line break. -/
def readPlain (inFlow : Bool) (indent : Int) (c : Cursor) : Except Problem (Token × Bool × Cursor) := do
  let (p, c') ← readPlainBody c.fuel inFlow (indent + 1) c.mark { text := [], stop := c.mark } c
  .ok (⟨.scalar (String.ofList p.text.reverse) .plain, c.mark, p.stop⟩, p.gap.onNewLine, c')

/-- What happens to the line breaks at the end of a block scalar. -/
inductive Chomping
  | strip
  | clip
  | keep
  deriving DecidableEq

/-- The header of a block scalar: chomping and indentation in either order. -/
structure BlockHeader where
  chomping  : Chomping := .clip
  increment : Nat := 0

def chomping? (c : Cursor) : Option Chomping :=
  if c.at? '+' then some .keep else if c.at? '-' then some .strip else none

def readIncrement (since : Mark) (c : Cursor) : Except Problem (Nat × Cursor) :=
  match c.rest with
  | x :: _ =>
    if Char.isDigit x then
      if x = '0' then
        fail c "while scanning a block scalar" since "found an indentation indicator equal to 0"
      else .ok (x.toNat - 48, c.skip)
    else .ok (0, c)
  | [] => .ok (0, c)

def readBlockHeader (since : Mark) (c : Cursor) : Except Problem (BlockHeader × Cursor) := do
  let (header, c) ←
    match chomping? c with
    | some chomping => do
      let (increment, c) ← readIncrement since c.skip
      .ok ((⟨chomping, increment⟩ : BlockHeader), c)
    | none => do
      let (increment, c) ← readIncrement since c
      match increment, chomping? c with
      | 0, _ => .ok ((⟨.clip, 0⟩ : BlockHeader), c)
      | _, none => .ok ((⟨.clip, increment⟩ : BlockHeader), c)
      | _, some chomping => .ok ((⟨chomping, increment⟩ : BlockHeader), c.skip)
  let c := c.skipBlanks.skipComment
  if !c.isBreakOrEnd then
    fail c "while scanning a block scalar" since "did not find expected comment or line break"
  else .ok (header, c.skipLine)

/-- Lines of a block scalar that hold nothing but indentation. -/
structure BlankLines where
  breaks : List Char
  widest : Nat
  stop   : Mark

/-- Reads empty lines and the indentation of the next line; indentation zero is not known yet. -/
def readBlankLines (fuel : Nat) (indent : Nat) (since : Mark) (b : BlankLines) (c : Cursor) :
    Except Problem (BlankLines × Cursor) :=
  match fuel with
  | 0 => .ok (b, c)
  | fuel + 1 =>
    let spaces := (c.takeWhile Char.isSpace).length
    let c := c.skipMany (if indent = 0 then spaces else min spaces (indent - c.mark.column))
    let b := { b with widest := max b.widest c.mark.column }
    if (indent = 0 || c.mark.column < indent) && c.at? '\t' then
      fail c "while scanning a block scalar" since
        "found a tab character where an indentation space is expected"
    else if !c.isBreak then .ok (b, c)
    else readBlankLines fuel indent since ⟨b.breaks ++ c.lineBreak, b.widest, c.skipLine.mark⟩ c.skipLine

/-- The text of a block scalar while it is read. -/
structure BlockText where
  text         : List Char := []
  lastBreak    : List Char := []
  leadingBlank : Bool := false
  blankLines   : BlankLines

/-- Reads the lines of a block scalar that have its indentation. -/
def readBlockLines (fuel : Nat) (literal : Bool) (indent : Nat) (since : Mark) (b : BlockText) (c : Cursor) :
    Except Problem (BlockText × Cursor) :=
  match fuel with
  | 0 => .ok (b, c)
  | fuel + 1 =>
    if c.mark.column ≠ indent || c.isEnd then .ok (b, c)
    else do
      let trailingBlank := c.isBlank
      let folds := !literal && b.lastBreak.head? = some '\n' && !b.leadingBlank && !trailingBlank
      let joined :=
        if folds then if b.blankLines.breaks.isEmpty then [' '] else [] else b.lastBreak
      let line := c.takeWhile (!Char.isBreak ·)
      let c' := c.skipWhile (!Char.isBreak ·)
      let text := line.reverse ++ b.blankLines.breaks.reverse ++ joined.reverse ++ b.text
      let after := c'.skipLine
      let (blankLines, c'') ← readBlankLines after.fuel indent since ⟨[], 0, after.mark⟩ after
      readBlockLines fuel literal indent since
        { text, lastBreak := c'.lineBreak, leadingBlank := trailingBlank, blankLines } c''

/-- Reads a block scalar at its indicator, inside a block of some indentation. -/
def readBlock (literal : Bool) (outer : Int) (c : Cursor) : Except Problem (Token × Cursor) := do
  let since := c.mark
  let (header, body) ← readBlockHeader since c.skip
  let known := if header.increment = 0 then 0 else outer.toNat + header.increment
  let (blankLines, first) ← readBlankLines body.fuel known since ⟨[], 0, body.mark⟩ body
  let indent := if known = 0 then max (max blankLines.widest (outer + 1).toNat) 1 else known
  let (b, c') ← readBlockLines first.fuel literal indent since { blankLines } first
  let tail :=
    match header.chomping with
    | .strip => []
    | .clip => b.lastBreak
    | .keep => b.lastBreak ++ b.blankLines.breaks
  let style := if literal then ScalarStyle.literal else .folded
  .ok (⟨.scalar (String.ofList (b.text.reverse ++ tail)) style, since, b.blankLines.stop⟩, c')

end ModelForge.Yaml
