import ModelForge.Pattern.Basic
import ModelForge.Pattern.Notation
/-!
The full notation of patterns: alternatives between bars, repetitions, groups, sets, escapes, what
stands around, and what has matched before. Switches hold up to the end of the whole pattern unless
a group of its own is made for them. A text that breaks the rules is no pattern; what exactly is
wrong with it nobody asks.
-/

namespace ModelForge.Pattern

/-- Switches that a pattern sets for its own parts. -/
structure Switches where
  ignoreCase : Bool := false
  lines      : Bool := false
  anyChar    : Bool := false
  /-- Repetitions are greedy only with a question mark behind them. -/
  swapGreed  : Bool := false
  spaced     : Bool := false

namespace Switches

def put (s : Switches) (name : Char) (value : Bool) : Option Switches :=
  match name with
  | 'i' => some { s with ignoreCase := value }
  | 'm' => some { s with lines := value }
  | 's' => some { s with anyChar := value }
  | 'U' => some { s with swapGreed := value }
  | 'x' => some { s with spaced := value }
  | 'u' => if value then some s else none
  | _ => none

end Switches

/-- How far a pattern has been read. -/
structure Cursor where
  rest     : List Char
  switches : Switches := {}
  /-- The number of groups opened so far. -/
  groups   : Nat := 0
  names    : List (List Char × Nat) := []
  /-- Whether a group was asked for by its number. -/
  numbered : Bool := false
  /-- The groups that were asked for. -/
  referred : List Nat := []

/-- What a pattern is read with throughout. -/
structure Setting where
  alphabet : Alphabet
  /-- The length of the pattern in bytes. -/
  size     : Nat

abbrev Parse := ReaderT Setting (StateT Cursor Option)

namespace Parse

def refuse {α : Type} : Parse α := fun _ _ => none

def rest : Parse (List Char) := do return (← get).rest

def goTo (cs : List Char) : Parse Unit := modify fun c => { c with rest := cs }

/-- Goes past one character, which has to be there. -/
def expect (c : Char) : Parse Unit := do
  match ← rest with
  | d :: cs => if c = d then goTo cs else refuse
  | [] => refuse

def ofOption {α : Type} : Option α → Parse α
  | some a => return a
  | none => refuse

/-- The text behind a comment in brackets, in which a backslash takes the next character along. -/
def comment : List Char → Option (List Char)
  | [] => none
  | ')' :: cs => some cs
  | '\\' :: _ :: cs => comment cs
  | _ :: cs => comment cs

/-- The text behind everything that counts for nothing. -/
def skip (spaced : Bool) : Nat → List Char → Option (List Char)
  | 0, cs => some cs
  | fuel + 1, cs =>
    match cs with
    | '(' :: '?' :: '#' :: rest => (comment rest).bind (skip spaced fuel)
    | c :: rest =>
      if spaced && c = '#' then skip spaced fuel (rest.dropWhile (· ≠ '\n') |>.drop 1)
      else if spaced && (c = ' ' || c = '\r' || c = '\n' || c = '\t') then skip spaced fuel rest
      else some cs
    | [] => some []

def blanks : Parse Unit := do
  let c ← get
  goTo (← ofOption (skip c.switches.spaced c.rest.length c.rest))

end Parse

open Parse

/-- A set, all of which differ in case only if case is ignored. -/
def oneOf (set : CharSet) : Parse Pattern := do
  return .one (set.foldedIf (← get).switches.ignoreCase)

def number? (cs : List Char) : Option (Nat × List Char) :=
  let ds := cs.takeWhile Char.isDigit
  let n := ds.foldl (fun n c => 10 * n + (c.toNat - 48)) 0
  if ds = [] || n ≥ Nat.pow 2 64 then none else some (n, cs.drop ds.length)

/-- The bounds of a repetition behind its opening brace; none where the brace stands for itself. -/
def bounds? (spaced : Bool) (cs : List Char) : Option (Nat × Option Nat × List Char) := do
  let skip (cs : List Char) : Option (List Char) := Parse.skip spaced cs.length cs
  let cs ← skip cs
  let (least, cs) ← if cs.head? = some ',' then some (0, cs) else number? cs
  match ← skip cs with
  | '\x7d' :: rest => return (least, some least, rest)
  | ',' :: cs =>
    let cs ← skip cs
    let (most, cs) := match number? cs with
      | some (most, cs) => (some most, cs)
      | none => (none, cs)
    match ← skip cs with
    | '\x7d' :: rest => return (least, most, rest)
    | _ => none
  | _ => none

def isNameChar (c : Char) : Bool := Text.isAlphanumeric c || c = '_'

/-- A name up to a closing text. -/
def name? (close : List Char) (cs : List Char) : Option (List Char × List Char) :=
  let name := cs.takeWhile isNameChar
  let rest := cs.drop name.length
  if name ≠ [] && close.isPrefixOf rest then some (name, rest.drop close.length) else none

/-- Asks for a group, which has to be open already. -/
def refer (n : Nat) : Parse Nat := do
  let c ← get
  if n ≤ c.groups then
    set { c with referred := n :: c.referred }
    return n
  else refuse

/-- Asks for a group by a number of several digits, which must not be too large for the pattern. -/
def numberedGroup : Parse Nat := do
  match number? (← rest) with
  | some (n, cs) =>
    if 2 * n + 2 ≤ (← read).size then
      goTo cs
      modify fun c => { c with numbered := true }
      refer n
    else refuse
  | none => refuse

/-- Asks for a group by its name or number, or by how many groups before it was opened. -/
def namedGroup (close : List Char) : Parse Nat := do
  let c ← get
  match c.rest with
  | '-' :: cs =>
    match name? close cs with
    | some (name, rest) =>
      match number? name with
      | some (n, []) =>
        goTo rest
        if n ≤ c.groups + 1 then refer (if n = 0 then 0 else c.groups + 1 - n) else refuse
      | _ => refuse
    | none => refuse
  | cs =>
    match name? close cs with
    | some (name, rest) =>
      goTo rest
      match c.names.find? (·.1 = name), number? name with
      | some (_, n), _ => refer n
      | none, some (n, []) => refer n
      | _, _ => refuse
    | none => refuse

/-- Hexadecimal digits, so many or in braces. -/
def hexDigits? (n : Nat) (cs : List Char) : Option (Char × List Char) :=
  let ds := cs.take n
  if ds.length = n && ds.all fun c => (hexValue? c).isSome then (hexChar? ds).map (·, cs.drop n)
  else
    match cs with
    | '\x7b' :: cs =>
      let ds := cs.takeWhile (· ≠ '\x7d')
      if ds.length < cs.length && ds.length ≤ 8 then (hexChar? ds).map (·, cs.drop (ds.length + 1)) else none
    | _ => none

def hexDigit : CharSet := .ranges [(48, 57), (65, 70), (97, 102)]

/-- What an escape means, inside or outside a set, if it means a character or a set of them. Inside a
set no letter asserts anything. -/
def plainEscape? (setting : Setting) (ignoreCase inSet : Bool) (cs : List Char) :
    Option (Escape × List Char) :=
  match cs with
  | [] => none
  | 'x' :: rest => (hexDigits? 2 rest).map fun (c, rest) => (.char c, rest)
  | 'u' :: rest => (hexDigits? 4 rest).map fun (c, rest) => (.char c, rest)
  | 'U' :: rest => (hexDigits? 8 rest).map fun (c, rest) => (.char c, rest)
  | 'h' :: rest => some (.set hexDigit, rest)
  | 'H' :: rest => some (.set (.complement hexDigit), rest)
  | 'e' :: rest => some (.char '\x1b', rest)
  | c :: rest =>
    let reading : Reading := { alphabet := setting.alphabet, ignoreCase := ignoreCase }
    if c.isDigit then none
    else if c = 'p' || c = 'P' then
      match Escape.property reading (c = 'P') rest with
      | .ok r => some r
      | .error _ => none
    else if let some s := setting.alphabet.set? ignoreCase c then some (.set s, rest)
    else if let some d := Escape.named? c then some (.char d, rest)
    else if inSet && c = 'b' then some (.char '\x08', rest)
    else if c.isAlpha then if inSet && ['k', 'A', 'z', 'B', 'K', 'G'].contains c then some (.char c, rest) else none
    else some (.char c, rest)

/-- The text of a set up to the bracket that closes it, behind the opening one, with so many sets
open. Escapes of characters are spelt as such, and those of sets in a way that the notation of
sets knows. -/
def setText (setting : Setting) : Nat → Nat → List Char → Option (List Char × List Char)
  | 0, _, _ => none
  | fuel + 1, depth, cs =>
    match cs with
    | [] => none
    | ']' :: rest =>
      if depth = 0 then some ([']'], rest)
      else (setText setting fuel (depth - 1) rest).map fun (t, rest) => (']' :: t, rest)
    | '[' :: rest => (setText setting fuel (depth + 1) rest).map fun (t, rest) => ('[' :: t, rest)
    | '\\' :: rest =>
      match plainEscape? setting false true rest with
      | none => none
      | some (.char c, behind) =>
        let spelt := if Escape.isPunctuation c then ['\\', c] else [c]
        (setText setting fuel depth behind).map fun (t, rest) => (spelt ++ t, rest)
      | some (_, behind) =>
        let own := '\\' :: rest.take (rest.length - behind.length)
        let spelt := match own with
          | ['\\', 'h'] => "[0-9A-Fa-f]".toList
          | ['\\', 'H'] => "[^0-9A-Fa-f]".toList
          | _ => own
        (setText setting fuel depth behind).map fun (t, rest) => (spelt ++ t, rest)
    | c :: rest => (setText setting fuel depth rest).map fun (t, rest) => (c :: t, rest)

/-- A set behind its opening bracket. -/
def bracketedSet : Parse Pattern := do
  let c ← get
  let setting ← read
  let (head, cs) := match c.rest with
    | '^' :: ']' :: cs => (['^', '\\', ']'], cs)
    | '^' :: cs => (['^'], cs)
    | ']' :: cs => (['\\', ']'], cs)
    | cs => ([], cs)
  let (text, rest) ← ofOption (setText setting (cs.length + 1) 0 cs)
  let reading : Reading := { alphabet := setting.alphabet, ignoreCase := c.switches.ignoreCase }
  match SetSyntax.read reading (head ++ text) with
  | .ok (set, []) =>
    goTo rest
    return .one set
  | _ => refuse

/-- What a backslash before some characters means outside a set. -/
def escaped : Parse Pattern := do
  let cs ← rest
  let assertion (a : Assertion) (cs : List Char) : Parse Pattern := do
    goTo cs
    return .assertion a
  let boundary (present : Bool) (cs : List Char) : Parse Pattern :=
    if cs.head? = some '\x7b' then refuse else assertion (.wordBoundary present) cs
  match cs with
  | [] => refuse
  | 'k' :: '<' :: cs => goTo cs; return .again (← namedGroup ['>'])
  | 'k' :: '\'' :: cs => goTo cs; return .again (← namedGroup ['\''])
  | 'A' :: cs => assertion .startOfText cs
  | 'z' :: cs => assertion .endOfText cs
  | 'Z' :: cs =>
    goTo cs
    return .around true true (.seq [.repeated (.one .lineFeed) 0 none true, .assertion .endOfText])
  | 'b' :: cs => boundary true cs
  | 'B' :: cs => boundary false cs
  | '<' :: cs => assertion .startOfWord cs
  | '>' :: cs => assertion .endOfWord cs
  | 'K' :: cs => goTo cs; return .reportStart
  | 'G' :: cs => goTo cs; return .searchStart
  | c :: _ =>
    if c.isDigit then return .again (← numberedGroup)
    else
      match plainEscape? (← read) (← get).switches.ignoreCase false cs with
      | some (.char c, cs) => goTo cs; oneOf (.char c)
      | some (.set s, cs) => goTo cs; return .one s
      | _ => refuse

/-- The kinds of groups, told by what stands behind the opening bracket. -/
inductive Opening
  | plain
  | named (name : List Char)
  | around (ahead present : Bool)
  | atomic
  | namedAgain
  | conditional
  | switches

/-- What opens a group, and what stands behind it. -/
def opening? (cs : List Char) : Option (Opening × List Char) :=
  match cs with
  | '?' :: '=' :: cs => some (.around true true, cs)
  | '?' :: '!' :: cs => some (.around true false, cs)
  | '?' :: '<' :: '=' :: cs => some (.around false true, cs)
  | '?' :: '<' :: '!' :: cs => some (.around false false, cs)
  | '?' :: '<' :: cs => (name? ['>'] cs).map fun (n, cs) => (.named n, cs)
  | '?' :: '\'' :: cs => (name? ['\''] cs).map fun (n, cs) => (.named n, cs)
  | '?' :: 'P' :: '<' :: cs => (name? ['>'] cs).map fun (n, cs) => (.named n, cs)
  | '?' :: 'P' :: '=' :: cs => some (.namedAgain, cs)
  | '?' :: '>' :: cs => some (.atomic, cs)
  | '?' :: '(' :: cs => some (.conditional, cs)
  | '?' :: cs => some (.switches, cs)
  | cs => some (.plain, cs)

/-- Reads switches up to a closing bracket or a colon, and tells whether it was a colon. -/
def readSwitches : Nat → List Char → Parse Bool
  | 0, _ => refuse
  | fuel + 1, given => do
    blanks
    match ← rest with
    | [] => refuse
    | c :: cs =>
      goTo cs
      if c = ')' then if given = [] || given = ['-'] then refuse else return false
      else if c = ':' then if given = ['-'] then refuse else return true
      else if c = '-' then if given.contains '-' then refuse else readSwitches fuel ('-' :: given)
      else
        let s ← ofOption ((← get).switches.put c (!given.contains '-'))
        modify fun cursor => { cursor with switches := s }
        readSwitches fuel (c :: given)

/-- How many groups may be open at a time. -/
def depthLimit : Nat := 64

mutual

/-- Alternatives. Where there is but one, groups that have names must not be asked for by number. -/
def alternatives (fuel : Nat) (depth : Nat) : Parse Pattern :=
  match fuel with
  | 0 => refuse
  | fuel + 1 => do
    let first ← pieces fuel depth []
    blanks
    match ← rest with
    | '|' :: _ => return .alt (first :: (← furtherBranches fuel depth))
    | _ =>
      let c ← get
      if c.numbered && !c.names.isEmpty then refuse else return first

/-- Branches with a bar before each. -/
def furtherBranches (fuel : Nat) (depth : Nat) : Parse (List Pattern) :=
  match fuel with
  | 0 => refuse
  | fuel + 1 => do
    match ← rest with
    | '|' :: cs =>
      goTo cs
      let a ← pieces fuel depth []
      blanks
      return a :: (← furtherBranches fuel depth)
    | _ => return []

/-- Pieces in a row, behind those read already, the last of which is first. -/
def pieces (fuel : Nat) (depth : Nat) (sofar : List Pattern) : Parse Pattern :=
  match fuel with
  | 0 => refuse
  | fuel + 1 => do
    let before := (← rest).length
    let finished : Pattern := match sofar with
      | [] => .empty
      | [a] => a
      | _ => .seq sofar.reverse
    if before = 0 then return finished
    else
      let a ← piece fuel depth
      if (← rest).length = before then return finished
      else
        match a with
        | .empty => pieces fuel depth sofar
        | a => pieces fuel depth (a :: sofar)

/-- An atom with a repetition, if one stands behind it. -/
def piece (fuel : Nat) (depth : Nat) : Parse Pattern :=
  match fuel with
  | 0 => refuse
  | fuel + 1 => do
    let a ← atom fuel depth
    blanks
    let c ← get
    let found : Option (Nat × Option Nat × List Char) := match c.rest with
      | '?' :: cs => some (0, some 1, cs)
      | '*' :: cs => some (0, none, cs)
      | '+' :: cs => some (1, none, cs)
      | '\x7b' :: cs => bounds? c.switches.spaced cs
      | _ => none
    match found with
    | none => return a
    | some (least, most, cs) =>
      if !a.isRepeatable then refuse
      else
        goTo cs
        blanks
        let (lazily, cs) := match ← rest with
          | '?' :: cs => (true, cs)
          | cs => (false, cs)
        let node : Pattern := .repeated a least most (lazily == c.switches.swapGreed)
        match cs with
        | '+' :: cs => goTo cs; return .atomic node
        | cs => goTo cs; return node

/-- A part that a repetition may stand behind; nothing before a sign that ends parts. -/
def atom (fuel : Nat) (depth : Nat) : Parse Pattern :=
  match fuel with
  | 0 => refuse
  | fuel + 1 => do
    blanks
    let s := (← get).switches
    match ← rest with
    | [] => return .empty
    | c :: cs =>
      match c with
      | '.' =>
        goTo cs
        return .one (if s.anyChar then .complement .nothing else .complement .lineFeed)
      | '^' => goTo cs; return .assertion (if s.lines then .startOfLine else .startOfText)
      | '$' => goTo cs; return .assertion (if s.lines then .endOfLine else .endOfText)
      | '(' => goTo cs; enclosed fuel (depth + 1)
      | '\\' => goTo cs; escaped
      | '[' => goTo cs; bracketedSet
      | c =>
        if ['+', '*', '?', '|', ')'].contains c then return .empty
        else
          goTo cs
          oneOf (.char c)

/-- A group behind its opening bracket. -/
def enclosed (fuel : Nat) (depth : Nat) : Parse Pattern :=
  match fuel with
  | 0 => refuse
  | fuel + 1 => do
    if depth ≥ depthLimit then refuse
    else
      blanks
      let (kind, cs) ← ofOption (opening? (← rest))
      goTo cs
      let inside : Parse Pattern := do
        let a ← alternatives fuel depth
        expect ')'
        return a
      let numbered (name : Option (List Char)) : Parse Pattern := do
        modify fun c => { c with
          groups := c.groups + 1
          names := match name with
            | some n => (n, c.groups + 1) :: c.names
            | none => c.names }
        let n := (← get).groups
        return .group n (← inside)
      match kind with
      | .plain => numbered none
      | .named n => numbered (some n)
      | .around ahead present => return .around ahead present (← inside)
      | .atomic => return .atomic (← inside)
      | .namedAgain => return .again (← namedGroup [')'])
      | .conditional => conditionalGroup fuel depth
      | .switches =>
        let before := (← get).switches
        if ← readSwitches fuel [] then
          let a ← inside
          modify fun c => { c with switches := before }
          return a
        else return .empty

/-- A condition behind its opening bracket, and what depends on it. -/
def conditionalGroup (fuel : Nat) (depth : Nat) : Parse Pattern :=
  match fuel with
  | 0 => refuse
  | fuel + 1 => do
    let condition ← match ← rest with
      | [] => refuse
      | '\'' :: cs => goTo cs; hasMatched <$> namedGroup ['\'']
      | '<' :: cs => goTo cs; hasMatched <$> namedGroup ['>']
      | c :: _ => if c.isDigit then hasMatched <$> numberedGroup else alternatives fuel depth
    expect ')'
    let before := (← rest).length
    let inner ← alternatives fuel depth
    let unchanged := (← rest).length = before
    expect ')'
    let condition : Pattern := match condition with
      | .again n => .hasMatched n
      | condition => condition
    if unchanged then
      match condition with
      | .hasMatched _ => return condition
      | _ => refuse
    else
      match inner with
      | .alt [.empty, .empty] => return condition
      | .alt [a, b] => return .conditional condition a b
      | .alt (a :: rest) => return .conditional condition a (.alt rest)
      | .empty => return condition
      | a => return .conditional condition a .empty

end

/-- A pattern with the groups that it asks for and the number of its groups. -/
structure Parsed where
  pattern  : Pattern
  referred : List Nat
  groups   : Nat

/-- Reads a pattern; none for a text that is not one. -/
def parse? (text : String) : Option Parsed := do
  let cs := text.toList
  let (alphabet, cs) ← Notation.extend (cs.length + 1) cs
  let setting : Setting := ⟨alphabet, (String.ofList cs).utf8ByteSize⟩
  let (pattern, cursor) ← (alternatives (8 * cs.length + 8) 0).run setting |>.run { rest := cs }
  if cursor.rest = [] then some ⟨pattern, cursor.referred, cursor.groups⟩ else none

end ModelForge.Pattern
