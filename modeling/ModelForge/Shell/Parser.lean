import ModelForge.Shell.Token
/-!
Commands from the tokens of a script. Lists of commands bind loosest, then `&&` and `||`, then
pipes; the words of control commands count only where a command may begin.
-/

namespace ModelForge.Shell

/-- A mistake in the form of a script, with its line. -/
structure SyntaxError where
  line  : Nat
  fault : Fault
  deriving DecidableEq, Repr

namespace Parser

/-- Tokens that are still to be read, with their lines. -/
abbrev Input := List (Token × Nat)

/-- The text of a word that is written without quotes and parameters. -/
def plainText? : Word → Option (List Char)
  | [] => some []
  | .text s false :: rest => (plainText? rest).map (s ++ ·)
  | _ => none

def plainWord? (w : Word) : Option String := (plainText? w).map String.ofList

/-- The control word at the beginning of some tokens. -/
def keyword? : Input → Option String
  | (.word w, _) :: _ => plainWord? w
  | _ => none

def skipLines : Input → Input
  | (.lineEnd, _) :: rest => skipLines rest
  | ts => ts

def lineOf : Input → Nat
  | (_, line) :: _ => line
  | [] => 1

/-- The mistake that the first token is. -/
def mistakeAt (ts : Input) (expected : Option String) : SyntaxError :=
  match ts with
  | (.broken f, line) :: _ => ⟨line, f⟩
  | (t, line) :: _ => ⟨line, .unexpected t.described expected⟩
  | [] => ⟨1, .unexpected "end of file" expected⟩

def unexpected {α : Type} (ts : Input) (expected : Option String) : Except SyntaxError α :=
  .error (mistakeAt ts expected)

/-- Passes over a control word, which must be there. -/
def expect (word : String) (ts : Input) : Except SyntaxError Input :=
  if keyword? ts = some word then .ok (ts.drop 1) else unexpected ts (some ("\"" ++ word ++ "\""))

def expectOperator (s : String) (ts : Input) : Except SyntaxError Input :=
  match ts with
  | (.operator t, _) :: rest => if s = t then .ok rest else unexpected ts (some ("\"" ++ s ++ "\""))
  | _ => unexpected ts (some ("\"" ++ s ++ "\""))

def directionOf (s : String) : Direction :=
  match s with
  | "<" => .read
  | ">>" => .append
  | ">|" => .overwrite
  | "<>" => .both
  | ">&" => .duplicate
  | "<&" => .duplicate
  | _ => .write

/-- Streams are named by one digit; a dash says that a stream is to be closed. -/
def isStreamName (s : List Char) : Bool :=
  match s with
  | [c] => c.isDigit || c = '-'
  | _ => false

/-- A redirection at the beginning of some tokens, if there is one. -/
def redirection? (ts : Input) : Except SyntaxError (Option (Redirection × Input)) :=
  match ts with
  | (.document stream body, _) :: rest => .ok (some (⟨stream, .document, body⟩, rest))
  | (.redirect stream s, _) :: (.word w, line) :: rest =>
    let usual := if s.toList.head? = some '<' then 0 else 1
    let direction := directionOf s
    if direction = .duplicate && !(plainText? w).all isStreamName then .error ⟨line, .badStreamNumber⟩
    else .ok (some (⟨stream.getD usual, direction, w⟩, rest))
  | (.redirect _ _, _) :: rest => unexpected rest none
  | _ => .ok none

def redirections : Nat → Input → Except SyntaxError (List Redirection × Input)
  | 0, ts => .ok ([], ts)
  | fuel + 1, ts => do
    match ← redirection? ts with
    | some (r, rest) =>
      let (more, rest) ← redirections fuel rest
      return (r :: more, rest)
    | none => return ([], ts)

/-- An assignment as a word: the name, and the pieces of the value. -/
def assignment? (w : Word) : Option (String × Word) :=
  let letters := w.takeWhile fun
    | .text [c] false => c ≠ '='
    | _ => false
  let name := letters.flatMap fun
    | .text s _ => s
    | _ => []
  match w.drop letters.length with
  | .text ['='] false :: value => if Token.isName name then some (String.ofList name, value) else none
  | _ => none

/-- What a simple command consists of. -/
structure Parts where
  assignments  : List (String × Word) := []
  words        : List Word := []
  redirections : List Redirection := []

/-- The parts of a simple command; assignments stand before the first other word. -/
def parts : Nat → Parts → Input → Except SyntaxError (Parts × Input)
  | 0, p, ts => .ok (p, ts)
  | fuel + 1, p, ts => do
    match ← redirection? ts with
    | some (r, rest) => parts fuel { p with redirections := p.redirections ++ [r] } rest
    | none =>
      match ts with
      | (.word w, _) :: rest =>
        match if p.words.isEmpty then assignment? w else none with
        | some a => parts fuel { p with assignments := p.assignments ++ [a] } rest
        | none => parts fuel { p with words := p.words ++ [w] } rest
      | _ => return (p, ts)

/-- The words that end a list of commands. -/
def listEnds : List String := ["then", "else", "elif", "fi", "do", "done", "esac", "\x7d"]

/-- Whether a list of commands ends before some tokens. -/
def isListEnd (ts : Input) : Bool :=
  match ts with
  | (.finish, _) :: _ => true
  | (.operator ")", _) :: _ => true
  | (.operator ";;", _) :: _ => true
  | [] => true
  | _ => (keyword? ts).any listEnds.contains

/-- The alternatives of one branch, up to the closing bracket. -/
def alternatives : Nat → Input → Except SyntaxError (List Word × Input)
  | 0, ts => unexpected ts none
  | fuel + 1, ts =>
    match ts with
    | (.word w, _) :: (.operator ")", _) :: rest => .ok ([w], rest)
    | (.word w, _) :: (.operator "|", _) :: rest =>
      (alternatives fuel rest).map fun (ws, rest) => (w :: ws, rest)
    | (.finish, _) :: _ => unexpected ts (some "\")\"")
    | _ :: rest => unexpected rest (some "\")\"")
    | [] => unexpected [] (some "\")\"")

/-- The words of a loop over words, up to the end of the line. -/
def loopWords : Input → List Word × Input
  | (.word w, _) :: rest =>
    let (ws, rest) := loopWords rest
    (w :: ws, rest)
  | ts => ([], ts)

def dropSeparator : Input → Input
  | (.operator ";", _) :: rest => rest
  | ts => ts

/-- The words of a loop behind its name; none if it runs over the arguments. -/
def loopHead (ts : Input) : Except SyntaxError (Option (List Word) × Input) :=
  let next := skipLines ts
  if keyword? next = some "in" then
    let (ws, rest) := loopWords (next.drop 1)
    match rest with
    | (.operator ";", _) :: rest => .ok (some ws, rest)
    | (.lineEnd, _) :: _ => .ok (some ws, rest)
    | _ => unexpected rest none
  else .ok (none, dropSeparator ts)

mutual

/-- Commands one after the other, up to a word or an operator that ends them. -/
def list (fuel : Nat) (ts : Input) : Except SyntaxError (Command × Input) :=
  match fuel with
  | 0 => unexpected ts none
  | fuel + 1 =>
    let ts := skipLines ts
    if isListEnd ts then .ok (.nothing, ts)
    else do
      let (a, rest) ← andOr fuel ts
      match rest with
      | (.operator ";", _) :: rest =>
        let (b, rest) ← list fuel rest
        return (.sequence a b, rest)
      | (.operator "&", _) :: rest =>
        let (b, rest) ← list fuel rest
        return (.sequence (.background a) b, rest)
      | (.lineEnd, _) :: rest =>
        let (b, rest) ← list fuel rest
        return (.sequence a b, rest)
      | _ => return (a, rest)

/-- A list that holds a command at least. -/
def body (fuel : Nat) (ts : Input) : Except SyntaxError (Command × Input) :=
  match fuel with
  | 0 => unexpected ts none
  | fuel + 1 =>
    let ts := skipLines ts
    match ts with
    | (.finish, _) :: _ => list fuel ts
    | _ => if isListEnd ts then unexpected ts none else list fuel ts

def andOr (fuel : Nat) (ts : Input) : Except SyntaxError (Command × Input) :=
  match fuel with
  | 0 => unexpected ts none
  | fuel + 1 => do
    let (a, rest) ← pipeline fuel ts
    andOrRest fuel a rest

def andOrRest (fuel : Nat) (a : Command) (ts : Input) : Except SyntaxError (Command × Input) :=
  match fuel with
  | 0 => unexpected ts none
  | fuel + 1 =>
    match ts with
    | (.operator "&&", _) :: rest => do
      let (b, rest) ← pipeline fuel (skipLines rest)
      andOrRest fuel (.both a b) rest
    | (.operator "||", _) :: rest => do
      let (b, rest) ← pipeline fuel (skipLines rest)
      andOrRest fuel (.either a b) rest
    | _ => .ok (a, ts)

def pipeline (fuel : Nat) (ts : Input) : Except SyntaxError (Command × Input) :=
  match fuel with
  | 0 => unexpected ts none
  | fuel + 1 =>
    if keyword? ts = some "!" then (piped fuel (ts.drop 1)).map fun (a, rest) => (.negated a, rest)
    else piped fuel ts

def piped (fuel : Nat) (ts : Input) : Except SyntaxError (Command × Input) :=
  match fuel with
  | 0 => unexpected ts none
  | fuel + 1 => do
    let (a, rest) ← one fuel ts
    match rest with
    | (.operator "|", _) :: rest =>
      let (b, rest) ← piped fuel (skipLines rest)
      return (.pipe a b, rest)
    | _ => return (a, rest)

/-- One command. -/
def one (fuel : Nat) (ts : Input) : Except SyntaxError (Command × Input) :=
  match fuel with
  | 0 => unexpected ts none
  | fuel + 1 =>
    let line := lineOf ts
    let grouped (c : Command) (rest : Input) : Except SyntaxError (Command × Input) := do
      match ← redirections fuel rest with
      | ([], rest) => return (c, rest)
      | (rs, rest) => return (.group line c rs, rest)
    match ts with
    | (.operator "(", _) :: rest => do
      let (inside, rest) ← body fuel rest
      let (rs, rest) ← redirections fuel (← expectOperator ")" rest)
      return (.inner line inside rs, rest)
    | (.word w, _) :: rest =>
      match plainWord? w with
      | some "\x7b" => do
        let (inside, rest) ← body fuel rest
        grouped inside (← expect "\x7d" rest)
      | some "if" => do
        let (a, rest) ← conditional fuel rest
        grouped a rest
      | some "while" => do
        let (a, rest) ← repeated fuel false rest
        grouped a rest
      | some "until" => do
        let (a, rest) ← repeated fuel true rest
        grouped a rest
      | some "for" =>
        match rest with
        | (.word name, nameLine) :: rest =>
          match (plainText? name).filter Token.isName with
          | none => .error ⟨nameLine, .badLoopVariable⟩
          | some name => do
            let (words, rest) ← loopHead rest
            let (inside, rest) ← body fuel (← expect "do" (skipLines rest))
            grouped (.each line (String.ofList name) words inside) (← expect "done" rest)
        | _ => .error ⟨lineOf rest, .badLoopVariable⟩
      | some "case" =>
        match rest with
        | (.word subject, _) :: rest => do
          let (bs, rest) ← branches fuel (← expect "in" (skipLines rest))
          grouped (.select line subject bs) rest
        | _ => unexpected rest (some "word")
      | some word => if listEnds.contains word then unexpected ts none else simple fuel line ts
      | none => simple fuel line ts
    | (.redirect _ _, _) :: _ => simple fuel line ts
    | (.document _ _, _) :: _ => simple fuel line ts
    | _ => unexpected ts none

/-- A simple command, or the definition of a function. -/
def simple (fuel line : Nat) (ts : Input) : Except SyntaxError (Command × Input) :=
  match fuel with
  | 0 => unexpected ts none
  | fuel + 1 => do
    let (p, rest) ← parts fuel {} ts
    match rest, p.words with
    | (.operator "(", _) :: rest, [w] =>
      let rest ← expectOperator ")" rest
      match (plainText? w).filter Token.isName with
      | none => .error ⟨line, .badFunctionName⟩
      | some name =>
        let (inside, rest) ← one fuel (skipLines rest)
        return (.define (String.ofList name) inside, rest)
    | _, _ => return (.simple line p.assignments p.words p.redirections, rest)

def repeated (fuel : Nat) (negated : Bool) (ts : Input) : Except SyntaxError (Command × Input) :=
  match fuel with
  | 0 => unexpected ts none
  | fuel + 1 => do
    let (condition, rest) ← body fuel ts
    let (inside, rest) ← body fuel (← expect "do" rest)
    return (.loop negated condition inside, ← expect "done" rest)

/-- The rest of a conditional command, behind its first word. -/
def conditional (fuel : Nat) (ts : Input) : Except SyntaxError (Command × Input) :=
  match fuel with
  | 0 => unexpected ts none
  | fuel + 1 => do
    let (condition, rest) ← body fuel ts
    let (consequent, rest) ← body fuel (← expect "then" rest)
    match keyword? rest with
    | some "elif" =>
      let (alternative, rest) ← conditional fuel (rest.drop 1)
      return (.choice condition consequent alternative, rest)
    | some "else" =>
      let (alternative, rest) ← body fuel (rest.drop 1)
      return (.choice condition consequent alternative, ← expect "fi" rest)
    | _ => return (.choice condition consequent .nothing, ← expect "fi" rest)

def branches (fuel : Nat) (ts : Input) : Except SyntaxError (List (List Word × Command) × Input) :=
  match fuel with
  | 0 => unexpected ts none
  | fuel + 1 =>
    let ts := skipLines ts
    if keyword? ts = some "esac" then .ok ([], ts.drop 1)
    else do
      let ts := match ts with
        | (.operator "(", _) :: rest => rest
        | _ => ts
      let (patterns, rest) ← alternatives fuel ts
      let (inside, rest) ← list fuel rest
      match rest with
      | (.operator ";;", _) :: rest =>
        let (more, rest) ← branches fuel rest
        return ((patterns, inside) :: more, rest)
      | _ => return ([(patterns, inside)], ← expect "esac" rest)

end

/-- The commands of one line, or of several if they belong together. -/
def line (fuel : Nat) (ts : Input) : Except SyntaxError (Command × Input) :=
  match fuel with
  | 0 => unexpected ts none
  | fuel + 1 => do
    let (a, rest) ← andOr fuel ts
    let next (a : Command) (rest : Input) : Except SyntaxError (Command × Input) :=
      match rest with
      | (.lineEnd, _) :: _ => .ok (a, rest)
      | (.finish, _) :: _ => .ok (a, rest)
      | _ => (line fuel rest).map fun (b, rest) => (.sequence a b, rest)
    match rest with
    | (.operator ";", _) :: rest => next a rest
    | (.operator "&", _) :: rest => next (.background a) rest
    | (.lineEnd, _) :: _ => return (a, rest)
    | (.finish, _) :: _ => return (a, rest)
    | _ => unexpected rest none

/-- The steps that reading some tokens may take. -/
def stepsFor (ts : Input) : Nat := 20 * ts.length + 20

/-- The lines of a script up to the first mistake in its form, each with the tokens it is made of. -/
def lines : Nat → Input → List (Command × Input) × Option SyntaxError
  | 0, _ => ([], none)
  | fuel + 1, ts =>
    match skipLines ts with
    | [] => ([], none)
    | (.finish, _) :: _ => ([], none)
    | ts =>
      match line fuel ts with
      | .error e => ([], some e)
      | .ok (c, rest) =>
        let (more, e) := lines fuel rest
        ((c, ts.take (ts.length - rest.length)) :: more, e)

/-- Commands whose output a word takes: whether they stand between brackets, the line they begin on,
and their text. -/
abbrev Source := Bool × Nat × List Char

mutual

def pieceSources : Piece → List Source
  | .output bracketed line source _ => [(bracketed, line, source)]
  | .parameter _ _ word _ => wordSources word
  | .arithmetic expression _ => wordSources expression
  | _ => []

def wordSources : List Piece → List Source
  | [] => []
  | p :: rest => pieceSources p ++ wordSources rest

end

def sources (ts : Input) : List Source :=
  ts.flatMap fun
    | (.word w, _) => wordSources w
    | (.document _ body, _) => wordSources body
    | _ => []

/-- What is wrong with commands between brackets, whose closing bracket ends them. -/
def bracketedMistake? (ts : Input) : Option SyntaxError :=
  let ts := ts.map fun
    | (.finish, line) => (.operator ")", line)
    | t => t
  match list (stepsFor ts) ts with
  | .error e => some e
  | .ok (_, (.operator ")", _) :: _) => none
  | .ok (_, rest) => some (mistakeAt rest none)

/-- The first mistake in commands whose output a word takes, and in those within them, to some depth. -/
def mistake? : Nat → Source → Option SyntaxError
  | 0, _ => none
  | depth + 1, (bracketed, first, source) =>
    let ts := Token.scan first source
    match (sources ts).findSome? (mistake? depth) with
    | some e => some e
    | none => if bracketed then bracketedMistake? ts else (lines (stepsFor ts) ts).2

/-- The commands of lines up to the first mistake in the commands within their words. -/
def sound (depth : Nat) : List (Command × Input) → Option SyntaxError → List Command × Option SyntaxError
  | [], e => ([], e)
  | (c, used) :: rest, e =>
    match (sources used).findSome? (mistake? depth) with
    | some e => ([], some e)
    | none =>
      let (cs, e) := sound depth rest e
      (c :: cs, e)

end Parser

/-- The commands of a script that begins on the line `first`, one for each line, and what is wrong
behind them. -/
def Command.ofText (first : Nat) (script : List Char) : List Command × Option SyntaxError :=
  let ts := Token.scan first script
  let (lines, e) := Parser.lines (Parser.stepsFor ts) ts
  Parser.sound script.length lines e

end ModelForge.Shell
