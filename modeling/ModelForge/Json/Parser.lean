import ModelForge.Json.Basic
import ModelForge.Text.Position
/-!
Reading JSON text. The reader stops at the first fault and says where it stands. An object keeps
the last of several members of one name. Values nest to a fixed depth, which is also the measure
that the reader recurses on, beside a fuel no smaller than the text.
-/

namespace ModelForge.Json

open Text Decimal

inductive Fault
  | endInValue
  | endInList
  | endInObject
  | endInString
  | expectedColon
  | expectedCommaOrBracket
  | expectedCommaOrBrace
  | expectedWord
  | expectedValue
  | invalidEscape
  | invalidNumber
  | numberOutOfRange
  | controlCharacter
  | keyNotString
  | loneSurrogate
  | endOfHexEscape
  | trailingComma
  | trailingCharacters
  | recursionLimit
  deriving DecidableEq, Repr

namespace Fault

def message : Fault → String
  | endInValue => "EOF while parsing a value"
  | endInList => "EOF while parsing a list"
  | endInObject => "EOF while parsing an object"
  | endInString => "EOF while parsing a string"
  | expectedColon => "expected `:`"
  | expectedCommaOrBracket => "expected `,` or `]`"
  | expectedCommaOrBrace => "expected `,` or `\x7d`"
  | expectedWord => "expected ident"
  | expectedValue => "expected value"
  | invalidEscape => "invalid escape"
  | invalidNumber => "invalid number"
  | numberOutOfRange => "number out of range"
  | controlCharacter => "control character (\\u0000-\\u001F) found while parsing a string"
  | keyNotString => "key must be a string"
  | loneSurrogate => "lone leading surrogate in hex escape"
  | endOfHexEscape => "unexpected end of hex escape"
  | trailingComma => "trailing comma"
  | trailingCharacters => "trailing characters"
  | recursionLimit => "recursion limit exceeded"

end Fault

structure ParseError where
  fault    : Fault
  position : Position
  deriving DecidableEq, Repr

def ParseError.message (e : ParseError) : String :=
  e.fault.message ++ " at " ++ e.position.describe

/-- The fault lies in what has been read. -/
def failAt {α : Type} (c : Cursor) (f : Fault) : Except ParseError (α × Cursor) := .error ⟨f, c.position⟩

/-- The fault lies in the next byte. -/
def failHere {α : Type} (c : Cursor) (f : Fault) : Except ParseError (α × Cursor) := .error ⟨f, c.here⟩

def isBlank (c : Char) : Bool := c = ' ' || c = '\n' || c = '\t' || c = '\r'

def skipBlanks (c : Cursor) : Cursor := c.skipWhile isBlank

def isDigit (c : Char) : Bool := '0' ≤ c && c ≤ '9'

def digitValue (c : Char) : Nat := c.toNat - 48

/-- Significands stay below this bound; later digits only move the point. -/
def significandBound : Nat := Nat.pow 2 64

/-- Exponents stay below this bound. -/
def exponentBound : Nat := Nat.pow 2 31

/-- Digits read into a number: those that fit below a bound, and how many did not. -/
structure DigitRun where
  value   : Nat
  taken   : Nat
  dropped : Nat
  cursor  : Cursor

/-- Reads all digits that follow. Once one does not fit, the rest are only counted. -/
def digitRun (bound : Nat) (value : Nat) (c : Cursor) : DigitRun :=
  go value 0 0 c.position c.rest
where
  go (value taken dropped : Nat) (pos : Position) : List Char → DigitRun
    | [] => ⟨value, taken, dropped, ⟨[], pos⟩⟩
    | x :: rest =>
      if isDigit x then
        if dropped = 0 && 10 * value + digitValue x < bound then
          go (10 * value + digitValue x) (taken + 1) 0 (pos.advance x) rest
        else go value taken (dropped + 1) (pos.advance x) rest
      else ⟨value, taken, dropped, ⟨x :: rest, pos⟩⟩

/-- The floating-point number of a decimal, unless it is too large. -/
def finishReal (negative : Bool) (significand : Nat) (exponent : Int) (c : Cursor) : Except ParseError (Number × Cursor) :=
  match Binary64.ofScaledDecimal negative significand exponent with
  | some x => .ok (.real x, c)
  | none => failAt c .numberOutOfRange

/-- An exponent begins with a digit; of one beyond the bound the place of the excess digit tells. -/
def readExponentDigits (negative : Bool) (significand : Nat) (start : Int) (down : Bool)
    (first : Char) (c : Cursor) : Except ParseError (Number × Cursor) :=
  let run := digitRun exponentBound (digitValue first) c
  if run.dropped > 0 then
    if significand ≠ 0 && !down then
      -- the reader stops just behind the first digit that does not fit
      let stop := (c.rest.take (run.taken + 1)).foldl Position.advance c.position
      failAt ⟨[], stop⟩ .numberOutOfRange
    else .ok (.real (.zero negative), run.cursor)
  else
    finishReal negative significand (if down then start - run.value else start + run.value) run.cursor

/-- Reads what follows the exponent sign `e`. -/
def readExponent (negative : Bool) (significand : Nat) (start : Int) (c : Cursor) : Except ParseError (Number × Cursor) :=
  let (down, c) :=
    match c.next? with
    | some ('+', c') => (false, c')
    | some ('-', c') => (true, c')
    | _ => (false, c)
  match c.next? with
  | none => failAt c .endInValue
  | some (x, c') =>
    if isDigit x then readExponentDigits negative significand start down x c'
    else failAt c' .invalidNumber

/-- Reads an exponent if one follows. -/
def readTail (negative : Bool) (significand : Nat) (exponent : Int) (c : Cursor) : Except ParseError (Number × Cursor) :=
  match c.next? with
  | some (x, c') =>
    if x = 'e' || x = 'E' then readExponent negative significand exponent c'
    else finishReal negative significand exponent c
  | none => finishReal negative significand exponent c

/-- Reads the digits behind a point; there must be one that fits. -/
def readFraction (negative : Bool) (significand : Nat) (exponent : Int) (c : Cursor) : Except ParseError (Number × Cursor) :=
  let run := digitRun significandBound significand c
  if run.taken = 0 && run.dropped = 0 then
    failHere c (if c.rest.isEmpty then .endInValue else .invalidNumber)
  else readTail negative run.value (exponent - run.taken) run.cursor

/-- The number of a sign and digits without point and exponent. Minus zero and what does not
fit 64 bits are floating-point numbers. -/
def wholeNumber (negative : Bool) (n : Nat) (c : Cursor) : Except ParseError (Number × Cursor) :=
  if !negative then .ok (.int n, c)
  else if n = 0 || n > Nat.pow 2 63 then finishReal true n 0 c
  else .ok (.int (-n), c)

/-- Reads a number behind its sign. -/
def readNumber (negative : Bool) (c : Cursor) : Except ParseError (Number × Cursor) :=
  match c.next? with
  | none => failAt c .endInValue
  | some (x, c') =>
    if x = '0' && (c'.next?.any fun y => isDigit y.1) then failHere c' .invalidNumber
    else if isDigit x then
      let run := if x = '0' then ⟨0, 0, 0, c'⟩ else digitRun significandBound (digitValue x) c'
      match run.cursor.next? with
      | some ('.', after) => readFraction negative run.value run.dropped after
      | some (y, after) =>
        if y = 'e' || y = 'E' then readExponent negative run.value run.dropped after
        else if run.dropped > 0 then finishReal negative run.value run.dropped run.cursor
        else wholeNumber negative run.value run.cursor
      | none =>
        if run.dropped > 0 then finishReal negative run.value run.dropped run.cursor
        else wholeNumber negative run.value run.cursor
    else failAt c' .invalidNumber

/-- Reads the rest of `true`, `false` or `null`. -/
def readWord {α : Type} (value : α) : List Char → Cursor → Except ParseError (α × Cursor)
  | [], c => .ok (value, c)
  | x :: rest, c =>
    match c.next? with
    | none => failAt c .endInValue
    | some (y, c') => if x = y then readWord value rest c' else failAt c' .expectedWord

def hexValue? (c : Char) : Option Nat :=
  if isDigit c then some (c.toNat - 48)
  else if 'a' ≤ c && c ≤ 'f' then some (c.toNat - 87)
  else if 'A' ≤ c && c ≤ 'F' then some (c.toNat - 55)
  else none

def byteLength (s : List Char) : Nat := s.foldl (fun n c => n + c.utf8Size) 0

/-- Reads four hexadecimal digits. -/
def readHex (c : Cursor) : Except ParseError (Nat × Cursor) :=
  if byteLength c.rest < 4 then
    .error ⟨.endInString, c.rest.foldl Position.advance c.position⟩
  else
    match c.rest.take 4 |>.mapM hexValue? with
    | some ds => .ok (ds.foldl (16 * · + ·) 0, ⟨c.rest.drop 4, c.position.advanceBytes 4 c.rest⟩)
    | none => .error ⟨.invalidEscape, c.position.advanceBytes 4 c.rest⟩

/-- The second half of a pair of surrogates must follow the first at once. -/
def readLowSurrogate (high : Nat) (c : Cursor) : Except ParseError (Char × Cursor) :=
  match c.next? with
  | none => failAt c .endInString
  | some ('\\', c') =>
    match c'.next? with
    | none => failAt c' .endInString
    | some ('u', c'') => do
      let (low, c''') ← readHex c''
      if low < 0xDC00 || low > 0xDFFF then failAt c''' .loneSurrogate
      else .ok (Char.ofNat (0x10000 + (high - 0xD800) * 0x400 + (low - 0xDC00)), c''')
    | some _ => .error ⟨.endOfHexEscape, c'.here⟩
  | some _ => .error ⟨.endOfHexEscape, c.here⟩

def readUnicodeEscape (c : Cursor) : Except ParseError (Char × Cursor) := do
  let (n, c') ← readHex c
  if 0xDC00 ≤ n && n ≤ 0xDFFF then failAt c' .loneSurrogate
  else if 0xD800 ≤ n && n ≤ 0xDBFF then readLowSurrogate n c'
  else .ok (Char.ofNat n, c')

/-- Reads what follows a backslash. -/
def readEscape (c : Cursor) : Except ParseError (Char × Cursor) :=
  match c.next? with
  | none => failAt c .endInString
  | some (x, c') =>
    match x with
    | '"' => .ok ('"', c')
    | '\\' => .ok ('\\', c')
    | '/' => .ok ('/', c')
    | 'b' => .ok ('\x08', c')
    | 'f' => .ok ('\x0c', c')
    | 'n' => .ok ('\n', c')
    | 'r' => .ok ('\r', c')
    | 't' => .ok ('\t', c')
    | 'u' => readUnicodeEscape c'
    | _ => .error ⟨.invalidEscape, c.here⟩

/-- Reads a string behind its opening quote. -/
def readString : Nat → List Char → Cursor → Except ParseError (String × Cursor)
  | 0, _, c => failAt c .endInString
  | fuel + 1, acc, c =>
    match c.next? with
    | none => failAt c .endInString
    | some ('"', c') => .ok (String.ofList acc.reverse, c')
    | some ('\\', c') => do
      let (x, c'') ← readEscape c'
      readString fuel (x :: acc) c''
    | some (x, c') =>
      if x.toNat < 32 then failAt c' .controlCharacter else readString fuel (x :: acc) c'

mutual

/-- Reads a value that begins at the next character other than a blank. -/
def readValue (fuel depth : Nat) (c : Cursor) : Except ParseError (Json × Cursor) :=
  match fuel with
  | 0 => failHere c .endInValue
  | fuel + 1 =>
    let c := skipBlanks c
    match c.next? with
    | none => failHere c .endInValue
    | some (x, c') =>
      match x with
      | 'n' => readWord .null ['u', 'l', 'l'] c'
      | 't' => readWord (.bool true) ['r', 'u', 'e'] c'
      | 'f' => readWord (.bool false) ['a', 'l', 's', 'e'] c'
      | '-' => do
        let (n, c'') ← readNumber true c'
        .ok (.num n, c'')
      | '"' => do
        let (s, c'') ← readString fuel [] c'
        .ok (.str s, c'')
      | '[' =>
        match depth with
        | 0 | 1 => failHere c .recursionLimit
        | depth + 1 => do
          let (items, c'') ← readItems fuel depth true [] c'
          .ok (.arr items, c'')
      | '\x7b' =>
        match depth with
        | 0 | 1 => failHere c .recursionLimit
        | depth + 1 => do
          let (members, c'') ← readMembers fuel depth true [] c'
          .ok (.obj members, c'')
      | _ =>
        if isDigit x then do
          let (n, c'') ← readNumber false c
          .ok (.num n, c'')
        else failHere c .expectedValue

/-- Reads the items of an array up to its closing bracket. -/
def readItems (fuel depth : Nat) (first : Bool) (acc : List Json) (c : Cursor) :
    Except ParseError (List Json × Cursor) :=
  match fuel with
  | 0 => failHere c .endInList
  | fuel + 1 =>
    let c := skipBlanks c
    match c.next? with
    | none => failHere c .endInList
    | some (x, c') =>
      if x = ']' then .ok (acc.reverse, c')
      else if first then do
        let (v, c'') ← readValue fuel depth c
        readItems fuel depth false (v :: acc) c''
      else if x = ',' then
        let c' := skipBlanks c'
        match c'.next? with
        | none => failHere c' .endInValue
        | some (']', _) => failHere c' .trailingComma
        | some _ => do
          let (v, c'') ← readValue fuel depth c'
          readItems fuel depth false (v :: acc) c''
      else failHere c .expectedCommaOrBracket

/-- Reads the members of an object up to its closing brace. -/
def readMembers (fuel depth : Nat) (first : Bool) (acc : List (String × Json)) (c : Cursor) :
    Except ParseError (List (String × Json) × Cursor) :=
  match fuel with
  | 0 => failHere c .endInObject
  | fuel + 1 =>
    let c := skipBlanks c
    match c.next? with
    | none => failHere c .endInObject
    | some (x, c') =>
      if x = '\x7d' then .ok (acc, c')
      else if first then
        if x = '"' then do
          let (m, c'') ← readMember fuel depth c'
          readMembers fuel depth false (Keyed.put m.1 m.2 acc) c''
        else failHere c .keyNotString
      else if x = ',' then
        let c' := skipBlanks c'
        match c'.next? with
        | none => failHere c' .endInValue
        | some ('\x7d', _) => failHere c' .trailingComma
        | some ('"', c'') => do
          let (m, c''') ← readMember fuel depth c''
          readMembers fuel depth false (Keyed.put m.1 m.2 acc) c'''
        | some _ => failHere c' .keyNotString
      else failHere c .expectedCommaOrBrace

/-- Reads a member behind the quote that opens its name. -/
def readMember (fuel depth : Nat) (c : Cursor) : Except ParseError ((String × Json) × Cursor) :=
  match fuel with
  | 0 => failHere c .endInObject
  | fuel + 1 => do
    let (k, c') ← readString fuel [] c
    let c' := skipBlanks c'
    match c'.next? with
    | none => failHere c' .endInObject
    | some (':', c'') => do
      let (v, c''') ← readValue fuel depth c''
      .ok ((k, v), c''')
    | some _ => failHere c' .expectedColon

end

/-- The bracket that would be the one of this number is refused. -/
def recursionLimit : Nat := 128

/-- Reads a text that holds one value, with brackets nested less than `limit` deep. -/
def parseWithin (limit : Nat) (text : String) : Except ParseError Json := do
  let cursor := Cursor.ofString text
  let (v, c) ← readValue (2 * text.length + 2) limit cursor
  let c := skipBlanks c
  if c.rest.isEmpty then .ok v else .error ⟨.trailingCharacters, c.here⟩

def parse (text : String) : Except ParseError Json := parseWithin recursionLimit text

end ModelForge.Json
