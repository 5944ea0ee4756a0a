import ModelForge.Yaml.Token
import ModelForge.Text.Utf8
/-!
Reading anchors, aliases, tags and directives.
-/

namespace ModelForge.Yaml

/-- What may follow an anchor or an alias at once. -/
def endsAnchor (c : Cursor) : Bool :=
  c.isGap || c.look 0 fun x =>
    x = '?' || x = ':' || x = ',' || x = ']' || x = '\x7d' || x = '%' || x = '@' || x = '`'

/-- Reads an anchor or an alias at its indicator. -/
def readAnchor (isAlias : Bool) (c : Cursor) : Except Problem (Token × Cursor) :=
  let name := c.skip.takeWhile Char.isWord
  let c' := c.skip.skipWhile Char.isWord
  if name.isEmpty || !endsAnchor c' then
    fail c' (if isAlias then "while scanning an alias" else "while scanning an anchor") c.mark
      "did not find expected alphabetic or numeric character"
  else
    let name := String.ofList name
    .ok (⟨if isAlias then .alias name else .anchor name, c.mark, c'.mark⟩, c')

/-- Reads a handle such as `!`, `!!` or `!name!`; without the second mark it is the beginning of
something longer. -/
def readTagHandle (inDirective : Bool) (since : Mark) (c : Cursor) : Except Problem (List Char × Cursor) :=
  if !c.at? '!' then
    fail c (if inDirective then "while scanning a tag directive" else "while scanning a tag") since
      "did not find expected '!'"
  else
    let word := c.skip.takeWhile Char.isWord
    let c' := c.skip.skipWhile Char.isWord
    if c'.at? '!' then .ok ('!' :: word ++ ['!'], c'.skip)
    else if inDirective && !word.isEmpty then
      fail c' "while parsing a tag directive" since "did not find expected '!'"
    else .ok ('!' :: word, c')

/-- The characters of a tag; commas and brackets only in the verbatim form. -/
def isTagChar (verbatim : Bool) (x : Char) : Bool :=
  Char.isWord x || [';', '/', '?', ':', '@', '&', '=', '+', '$', '.', '%', '!', '~', '*', '\'', '(', ')'].contains x ||
  (verbatim && (x = ',' || x = '[' || x = ']'))

/-- The number of bytes of a character that begins with this one. -/
def utf8Width (b : Nat) : Nat :=
  if b < 0x80 then 1 else if b / 32 = 6 then 2 else if b / 16 = 14 then 3 else if b / 8 = 30 then 4 else 0

/-- Reads escaped bytes that make up one character. -/
def readUriEscapes (fuel : Nat) (doing : String) (since : Mark) (width : Nat) (acc : Bytes) (c : Cursor) :
    Except Problem (Bytes × Cursor) :=
  match fuel with
  | 0 => .ok (acc, c)
  | fuel + 1 =>
    match c.rest with
    | '%' :: x :: y :: _ =>
      match Char.hexValue? x, Char.hexValue? y with
      | some h, some l =>
        let b := 16 * h + l
        if acc.isEmpty then
          let width := utf8Width b
          if width = 0 then fail c doing since "found an incorrect leading UTF-8 octet"
          else if width = 1 then .ok ([b.toUInt8], c.skipMany 3)
          else readUriEscapes fuel doing since (width - 1) [b.toUInt8] (c.skipMany 3)
        else if b / 64 ≠ 2 then fail c doing since "found an incorrect trailing UTF-8 octet"
        else if width = 1 then .ok (acc ++ [b.toUInt8], c.skipMany 3)
        else readUriEscapes fuel doing since (width - 1) (acc ++ [b.toUInt8]) (c.skipMany 3)
      | _, _ => fail c doing since "did not find URI escaped octet"
    | _ => fail c doing since "did not find URI escaped octet"

/-- Reads the rest of a tag behind what was taken for its handle. -/
def readTagUri (fuel : Nat) (verbatim : Bool) (doing : String) (since : Mark) (taken : Nat) (acc : List Char) (c : Cursor) :
    Except Problem (List Char × Cursor) :=
  match fuel with
  | 0 => .ok (acc, c)
  | fuel + 1 =>
    match c.rest with
    | x :: _ =>
      if !isTagChar verbatim x then
        if taken = 0 then fail c doing since "did not find expected tag URI" else .ok (acc.reverse, c)
      else if x = '%' then do
        let (bytes, c') ← readUriEscapes 5 doing since 0 [] c
        readTagUri fuel verbatim doing since (taken + 1) ((Text.Utf8.decodeLossy bytes).reverse ++ acc) c'
      else readTagUri fuel verbatim doing since (taken + 1) (x :: acc) c.skip
    | [] => if taken = 0 then fail c doing since "did not find expected tag URI" else .ok (acc.reverse, c)

/-- The handle and the suffix of a tag that is not in verbatim form. A lone `!` is a suffix
without a handle. -/
def readShortTag (c : Cursor) : Except Problem (List Char × List Char × Cursor) := do
  let doing := "while parsing a tag"
  let (handle, c') ← readTagHandle false c.mark c
  if handle.length > 1 && handle.getLast? = some '!' then
    let (suffix, c'') ← readTagUri c'.fuel false doing c.mark 0 [] c'
    .ok (handle, suffix, c'')
  else
    let (suffix, c'') ← readTagUri c'.fuel false doing c.mark handle.length (handle.drop 1).reverse c'
    if suffix.isEmpty then .ok ([], ['!'], c'') else .ok (['!'], suffix, c'')

/-- Reads a tag at its mark. -/
def readTag (inFlow : Bool) (c : Cursor) : Except Problem (Token × Cursor) := do
  let (handle, suffix, c') ←
    if c.look 1 (· == '<') then do
      let c₀ := c.skipMany 2
      let (suffix, c₁) ← readTagUri c₀.fuel true "while parsing a tag" c.mark 0 [] c₀
      if !c₁.at? '>' then fail c₁ "while scanning a tag" c.mark "did not find the expected '>'"
      else .ok (([] : List Char), suffix, c₁.skip)
    else readShortTag c
  if (!inFlow || !c'.at? ',') && !c'.isGap then
    fail c' "while scanning a tag" c.mark "did not find expected whitespace or line break"
  else .ok (⟨.tag (String.ofList handle) (String.ofList suffix), c.mark, c'.mark⟩, c')

/-- Reads one number of a version. -/
def readVersionNumber (since : Mark) (c : Cursor) : Except Problem (Nat × Cursor) :=
  let digits := c.takeWhile Char.isDigit
  let doing := "while scanning a %YAML directive"
  if digits.length > 9 then fail (c.skipMany 9) doing since "found extremely long version number"
  else if digits.isEmpty then fail c doing since "did not find expected version number"
  else .ok (digits.foldl (fun n d => 10 * n + (d.toNat - 48)) 0, c.skipWhile Char.isDigit)

def readVersion (since : Mark) (c : Cursor) : Except Problem (TokenKind × Cursor) := do
  let (major, c) ← readVersionNumber since c.skipBlanks
  if !c.at? '.' then
    fail c "while scanning a %YAML directive" since "did not find expected digit or '.' character"
  else
    let (minor, c) ← readVersionNumber since c.skip
    .ok (.versionDirective major minor, c)

def readTagDirective (since : Mark) (c : Cursor) : Except Problem (TokenKind × Cursor) := do
  let doing := "while scanning a %TAG directive"
  let (handle, c) ← readTagHandle true since c.skipBlanks
  if !c.isBlank then fail c doing since "did not find expected whitespace"
  else
    let c := c.skipBlanks
    let (start, c) ← readTagUri c.fuel true "while parsing a %TAG directive" since 0 [] c
    if !c.isGap then fail c doing since "did not find expected whitespace or line break"
    else .ok (.tagDirective (String.ofList handle) (String.ofList start), c)

/-- Reads a directive at its indicator, with the rest of its line. -/
def readDirective (c : Cursor) : Except Problem (Token × Cursor) := do
  let doing := "while scanning a directive"
  let name := c.skip.takeWhile Char.isWord
  let c' := c.skip.skipWhile Char.isWord
  if name.isEmpty then fail c' doing c.mark "could not find expected directive name"
  else if !c'.isGap then fail c' doing c.mark "found unexpected non-alphabetical character"
  else do
    let (kind, c') ←
      if name = "YAML".toList then readVersion c.mark c'
      else if name = "TAG".toList then readTagDirective c.mark c'
      else fail c' doing c.mark "found unknown directive name"
    let rest := c'.skipBlanks.skipComment
    if !rest.isBreakOrEnd then fail rest doing c.mark "did not find expected comment or line break"
    else .ok (⟨kind, c.mark, c'.mark⟩, rest.skipLine)

end ModelForge.Yaml
