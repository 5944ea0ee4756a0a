import ModelForge.Shell.Command
/-!
The text of scripts as tokens: words with their quotes resolved into pieces, operators, the texts
that commands are given to read, and the ends of lines.
-/

namespace ModelForge.Shell

/-- What is wrong with the form of a script. -/
inductive Fault
  | openQuote
  | openBracket
  | openBackquote
  | openBrace
  | openArithmetic
  | unexpected (found : String) (expected : Option String)
  | badFunctionName
  | badLoopVariable
  | badStreamNumber
  deriving DecidableEq, Repr

namespace Fault

def message : Fault → String
  | openQuote => "Unterminated quoted string"
  | openBracket => "end of file unexpected (expecting \")\")"
  | openBackquote => "EOF in backquote substitution"
  | openBrace => "Missing '\x7d'"
  | openArithmetic => "Missing '))'"
  | unexpected found none => found ++ " unexpected"
  | unexpected found (some expected) => found ++ " unexpected (expecting " ++ expected ++ ")"
  | badFunctionName => "Bad function name"
  | badLoopVariable => "Bad for loop variable"
  | badStreamNumber => "Bad fd number"

end Fault

inductive Token
  | word (w : Word)
  | operator (s : String)
  | redirect (stream : Option Nat) (s : String)
  /-- A text in the script itself that a stream reads. -/
  | document (stream : Nat) (body : Word)
  | lineEnd
  | finish
  /-- From here on the script cannot be read. -/
  | broken (f : Fault)
  deriving Repr

namespace Change

/-- Whether the word is a pattern, to which quotes around the parameter do not reach. -/
def takesPattern : Change → Bool
  | cutFront _ => true
  | cutBack _ => true
  | _ => false

end Change

namespace Token

def isBlank (c : Char) : Bool := c = ' ' || c = '\t'

/-- The characters that end a word unless they are quoted. -/
def endsWord (c : Char) : Bool := isBlank c || c = '\n' || ";&|<>()".toList.contains c

def isNameStart (c : Char) : Bool := c.isAlpha || c = '_'

def isNameChar (c : Char) : Bool := c.isAlphanum || c = '_'

def isName (s : List Char) : Bool := s.head?.any isNameStart && s.all isNameChar

/-- The parameters named by one sign. -/
def isSpecial (c : Char) : Bool := c.isDigit || "#@*?$!-".toList.contains c

/-- The name of a parameter at the beginning of a text. In braces a number may have several digits. -/
def parameterName (braced : Bool) (cs : List Char) : Option (String × List Char) :=
  match cs with
  | c :: rest =>
    if isNameStart c then
      let name := cs.takeWhile isNameChar
      some (String.ofList name, cs.drop name.length)
    else if c.isDigit && braced then
      let name := cs.takeWhile Char.isDigit
      some (String.ofList name, cs.drop name.length)
    else if isSpecial c then some (String.ofList [c], rest)
    else none
  | [] => none

/-- What a text in round brackets holds, up to the bracket that closes the first one. Brackets in
quotes do not count. -/
def bracketed (depth : Nat) (quote : Option Char) : List Char → Option (List Char × List Char)
  | [] => none
  | '\\' :: c :: rest =>
    if quote = some '\'' then (bracketed depth (if c = '\'' then none else quote) rest).map fun (s, rest) => ('\\' :: c :: s, rest)
    else (bracketed depth quote rest).map fun (s, rest) => ('\\' :: c :: s, rest)
  | c :: rest =>
    let go (depth : Nat) (quote : Option Char) := (bracketed depth quote rest).map fun (s, rest) => (c :: s, rest)
    match quote with
    | some q => go depth (if c = q then none else quote)
    | none =>
      if c = '\'' || c = '"' then go depth (some c)
      else if c = '(' then go (depth + 1) none
      else if c = ')' then
        match depth with
        | 0 => some ([], rest)
        | depth + 1 => go depth none
      else go depth none

/-- The text between backquotes, in which a backslash keeps some characters plain. -/
def backquoted (inQuotes : Bool) : List Char → Option (List Char × List Char)
  | [] => none
  | '\\' :: c :: rest =>
    let plain := "$\x60\\".toList.contains c || (inQuotes && c = '"')
    (backquoted inQuotes rest).map fun (s, rest) => (if plain then c :: s else '\\' :: c :: s, rest)
  | c :: rest =>
    if c = '\x60' then some ([], rest) else (backquoted inQuotes rest).map fun (s, rest) => (c :: s, rest)

/-- The change that stands behind the name of a parameter in braces. -/
def changeOf (cs : List Char) : Option (Change × List Char) :=
  match cs with
  | '#' :: '#' :: rest => some (.cutFront true, rest)
  | '#' :: rest => some (.cutFront false, rest)
  | '%' :: '%' :: rest => some (.cutBack true, rest)
  | '%' :: rest => some (.cutBack false, rest)
  | ':' :: '-' :: rest => some (.default true, rest)
  | '-' :: rest => some (.default false, rest)
  | ':' :: '+' :: rest => some (.alternative true, rest)
  | '+' :: rest => some (.alternative false, rest)
  | ':' :: '=' :: rest => some (.assign true, rest)
  | '=' :: rest => some (.assign false, rest)
  | ':' :: '?' :: rest => some (.demand true, rest)
  | '?' :: rest => some (.demand false, rest)
  | _ => none

/-- How the pieces of a word are read: bare, between double quotes, inside braces, or in a text to be
read, where a quote means nothing. -/
inductive Mode
  | bare
  | quoted
  | braced (quoted : Bool)
  | document
  deriving DecidableEq

namespace Mode

def isQuoted : Mode → Bool
  | bare => false
  | quoted => true
  | braced q => q
  | document => true

def ends (mode : Mode) (c : Char) : Bool :=
  match mode with
  | bare => endsWord c
  | quoted => c = '"'
  | braced _ => c = '\x7d'
  | document => false

/-- What is wrong if the text ends before the word. -/
def fault? : Mode → Option Fault
  | quoted => some .openQuote
  | braced _ => some .openBrace
  | _ => none

/-- The characters that a backslash keeps plain between quotes. -/
def keeps (mode : Mode) (c : Char) : Bool :=
  "$\x60\\".toList.contains c || (mode ≠ .document && c = '"') || (mode = .braced true && c = '\x7d')

end Mode

mutual

/-- The pieces up to the end that a mode asks for; what ends them is left. The text belongs to one
that ends on the line `last`. -/
def pieces (fuel last : Nat) (mode : Mode) (cs : List Char) : Except Fault (List Piece × List Char) :=
  match fuel with
  | 0 => .ok ([], cs)
  | fuel + 1 =>
    let after (p : Piece) (rest : List Char) : Except Fault (List Piece × List Char) :=
      (pieces fuel last mode rest).map fun (ps, rest) => (p :: ps, rest)
    match cs with
    | [] =>
      match mode.fault? with
      | some f => .error f
      | none => .ok ([], [])
    | c :: rest =>
      if mode.ends c then .ok ([], cs)
      else if c = '\\' then
        match rest with
        | [] => after (.text ['\\'] true) []
        | d :: rest =>
          if d = '\n' then pieces fuel last mode rest
          else if mode.isQuoted && !mode.keeps d then after (.text ['\\', d] true) rest
          else after (.text [d] true) rest
      else if c = '\'' && !mode.isQuoted then
        let s := rest.takeWhile (· ≠ '\'')
        match rest.drop s.length with
        | _ :: rest => after (.text s true) rest
        | [] => .error .openQuote
      else if c = '"' && mode ≠ .document then
        match pieces fuel last .quoted rest with
        | .error f => .error f
        | .ok (ps, rest) =>
          (pieces fuel last mode (rest.drop 1)).map fun (qs, rest) => (.text [] true :: (ps ++ qs), rest)
      else if c = '\x60' then
        match backquoted mode.isQuoted rest with
        | some (s, rest) => after (.output false 1 s mode.isQuoted) rest
        | none => .error .openBackquote
      else if c = '$' then
        match dollar fuel last mode.isQuoted rest with
        | .ok (p, rest) => after p rest
        | .error f => .error f
      else after (.text [c] mode.isQuoted) rest

/-- What stands behind a dollar sign. -/
def dollar (fuel last : Nat) (isQuoted : Bool) (cs : List Char) : Except Fault (Piece × List Char) :=
  match fuel with
  | 0 => .ok (.malformed, cs)
  | fuel + 1 =>
    let output (s cs rest : List Char) : Except Fault (Piece × List Char) :=
      .ok (.output true (last - cs.count '\n') s isQuoted, rest)
    let malformed (rest : List Char) : Except Fault (Piece × List Char) :=
      match rest.dropWhile (· ≠ '\x7d') with
      | _ :: rest => .ok (.malformed, rest)
      | [] => .error .openBrace
    match cs with
    | '(' :: '(' :: rest =>
      match bracketed 0 none rest with
      | some (s, ')' :: behind) =>
        (pieces fuel (last + s.count '\n' - rest.count '\n') .document s).map fun (ps, _) =>
          (.arithmetic ps isQuoted, behind)
      | _ =>
        match bracketed 0 none ('(' :: rest) with
        | some (s, behind) => output s rest behind
        | none => .error .openArithmetic
    | '(' :: rest =>
      match bracketed 0 none rest with
      | some (s, behind) => output s rest behind
      | none => .error .openBracket
    | '\x7b' :: '#' :: '\x7d' :: rest => .ok (.parameter "#" .none [] isQuoted, rest)
    | '\x7b' :: '#' :: rest =>
      match parameterName true rest with
      | some (name, '\x7d' :: rest) => .ok (.parameter name .length [] isQuoted, rest)
      | _ => malformed rest
    | '\x7b' :: rest =>
      match parameterName true rest with
      | some (name, '\x7d' :: rest) => .ok (.parameter name .none [] isQuoted, rest)
      | some (name, inner) =>
        match changeOf inner with
        | some (change, inner) =>
          (pieces fuel last (.braced (isQuoted && !change.takesPattern)) inner).map fun (operand, rest) =>
            (.parameter name change operand isQuoted, rest.drop 1)
        | none => malformed rest
      | none => malformed rest
    | _ =>
      match parameterName false cs with
      | some (name, rest) => .ok (.parameter name .none [] isQuoted, rest)
      | none => .ok (.text ['$'] isQuoted, cs)

end

/-- The operators, longer ones before their beginnings. -/
def operators : List String := ["&&", "||", ";;", ";", "&", "|", "(", ")"]

def redirections : List String := ["<<-", "<<", ">>", ">&", "<&", ">|", "<>", ">", "<"]

def operatorAt (table : List String) (cs : List Char) : Option (String × List Char) :=
  (table.find? fun s => cs.take s.length = s.toList).map fun s => (s, cs.drop s.length)

/-- A redirection, with the number of the stream right before it. -/
def redirectionAt (cs : List Char) : Option (Option Nat × String × List Char) :=
  let digits := cs.takeWhile Char.isDigit
  let number := if digits.length = 1 then (String.ofList digits).toNat? else none
  if digits.length > 1 then none
  else (operatorAt redirections (cs.drop digits.length)).map fun (s, rest) => (number, s, rest)

/-- The text of a word with its quotes taken away, and whether it had any. -/
def literal (w : Word) : List Char × Bool :=
  (w.flatMap fun
    | .text s _ => s
    | _ => [],
  w.any fun
    | .text _ quoted => quoted
    | _ => false)

/-- A text to be read that a line announces: where it ends, whether it is taken as it is, and whether
tabs before its lines are left out. -/
structure Announcement where
  ending  : List Char
  literal : Bool
  noTabs  : Bool

/-- The lines of a text to be read, up to the ending, and the rest. -/
def documentLines (a : Announcement) : Nat → List Char → List Char × List Char
  | 0, cs => ([], cs)
  | fuel + 1, cs =>
    if cs = [] then ([], [])
    else
      let raw := cs.takeWhile (· ≠ '\n')
      let line := if a.noTabs then raw.dropWhile (· = '\t') else raw
      let rest := cs.drop (raw.length + 1)
      if line = a.ending then ([], rest)
      else if raw.length = cs.length then (line, [])
      else
        let (more, rest) := documentLines a fuel rest
        (line ++ '\n' :: more, rest)

/-- The texts to be read that a line has announced, in a text that ends on the line `last`. -/
def documents (last : Nat) : List Announcement → List Char → List Word × List Char
  | [], cs => ([], cs)
  | a :: more, cs =>
    let (s, rest) := documentLines a (cs.length + 1) cs
    let body : Word :=
      if a.literal then [.text s true]
      else
        match pieces (2 * s.length + 2) (last + s.count '\n' - cs.count '\n') .document s with
        | .ok (ps, _) => ps
        | .error _ => [.text s true]
    let (bodies, rest) := documents last more rest
    (body :: bodies, rest)

/-- Tokens with their lines, and the texts to be read whose announcements stand further left. -/
abbrev Scanned := List (Token × Nat) × List Word

def scanFrom (last : Nat) : Nat → Nat → List Announcement → List Char → Scanned
  | 0, line, _, _ => ([(.finish, line)], [])
  | fuel + 1, line, pending, cs =>
    let broken (f : Fault) (cs : List Char) : Scanned := ([(.broken f, line + cs.count '\n')], [])
    let after (t : Token) (s : Scanned) : Scanned := ((t, line) :: s.1, s.2)
    match cs with
    | [] =>
      -- A text that is announced on the last line is empty.
      let (bodies, _) := documents last pending []
      ([(.finish, line)], bodies)
    | c :: rest =>
      if isBlank c then scanFrom last fuel line pending rest
      else if c = '\n' then
        let (bodies, behind) := documents last pending rest
        let (ts, _) := scanFrom last fuel (line + 1 + (rest.count '\n' - behind.count '\n')) [] behind
        ((.lineEnd, line) :: ts, bodies)
      else if c = '\\' && rest.head? = some '\n' then scanFrom last fuel (line + 1) pending (rest.drop 1)
      else if c = '#' then scanFrom last fuel line pending (rest.dropWhile (· ≠ '\n'))
      else
        match redirectionAt cs with
        | some (stream, s, rest) =>
          if s = "<<" || s = "<<-" then
            let rest := rest.dropWhile isBlank
            match pieces (2 * rest.length + 2) last .bare rest with
            | .error f => broken f rest
            | .ok ([], _) => after (.redirect stream s) (scanFrom last fuel line pending rest)
            | .ok (w, rest) =>
              let (ending, quoted) := literal w
              let (ts, bodies) := scanFrom last fuel line (pending ++ [⟨ending, quoted, s = "<<-"⟩]) rest
              ((.document (stream.getD 0) (bodies.getLast?.getD []), line) :: ts, bodies.dropLast)
          else after (.redirect stream s) (scanFrom last fuel line pending rest)
        | none =>
          match operatorAt operators cs with
          | some (s, rest) => after (.operator s) (scanFrom last fuel line pending rest)
          | none =>
            match pieces (2 * cs.length + 2) last .bare cs with
            | .error f => broken f cs
            | .ok (w, rest) =>
              let taken := cs.take (cs.length - rest.length)
              after (.word w) (scanFrom last fuel (line + taken.count '\n') pending rest)

/-- The tokens of a script with their lines. -/
def scan (first : Nat) (cs : List Char) : List (Token × Nat) :=
  (scanFrom (first + cs.count '\n') (cs.length + 1) first [] cs).1


/-- How a token is named where it is not expected. -/
def described : Token → String
  | word w =>
    let (s, quoted) := literal w
    let keyword := ["!", "case", "do", "done", "elif", "else", "esac", "fi", "for", "if", "in", "then", "until",
      "while", "\x7b", "\x7d"].contains (String.ofList s)
    if keyword && !quoted then "\"" ++ String.ofList s ++ "\"" else "word"
  | operator s => "\"" ++ s ++ "\""
  | redirect _ _ => "redirection"
  | document _ _ => "redirection"
  | lineEnd => "newline"
  | finish => "end of file"
  | broken _ => "end of file"

end Token

end ModelForge.Shell
