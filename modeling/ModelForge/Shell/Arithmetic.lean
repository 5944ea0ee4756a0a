import ModelForge.Shell.State
/-!
Arithmetic in scripts: expressions over whole numbers of 64 bits with the usual signs, in which
variables can be read and set. An expression is read in whole and evaluated then, so that what is
not chosen has no effect.
-/

namespace ModelForge.Shell

inductive Sign
  | mul | div | mod | add | sub | shiftLeft | shiftRight
  | lt | le | gt | ge | eq | ne | and | xor | or
  deriving DecidableEq, Repr

inductive Expression
  | number (n : Int)
  | variable (name : String)
  | negative (a : Expression)
  | complement (a : Expression)
  | falsity (a : Expression)
  | binary (s : Sign) (a b : Expression)
  | both (a b : Expression)
  | either (a b : Expression)
  | choice (condition a b : Expression)
  /-- A variable is set; with a sign, to what the sign makes of its old value and the new one. -/
  | assign (name : String) (s : Option Sign) (a : Expression)
  deriving Repr

namespace Expression

/-- The number of 64 bits that an integer becomes. -/
def wrap (n : Int) : Int := (n + Nat.pow 2 63) % Nat.pow 2 64 - Nat.pow 2 63

def largest : Int := Nat.pow 2 63 - 1

/-- A number as far as it fits. -/
def clamp (n : Int) : Int := max (-largest - 1) (min n largest)

def ofBool (b : Bool) : Int := if b then 1 else 0

/-- The bits of a number, as a natural number. -/
def bits (n : Int) : Nat := (n % Nat.pow 2 64).toNat

def digitValue? (base : Nat) (c : Char) : Option Nat :=
  let v := if c.isDigit then some (c.toNat - 48)
    else if 'a' ≤ c && c ≤ 'f' then some (c.toNat - 87)
    else if 'A' ≤ c && c ≤ 'F' then some (c.toNat - 55)
    else none
  v.filter (· < base)

/-- The number that digits begin a text with, and what follows them. -/
def digits (base n : Nat) : List Char → Nat × List Char
  | c :: rest =>
    match digitValue? base c with
    | some v => digits base (base * n + v) rest
    | none => (n, c :: rest)
  | [] => (n, [])

/-- A number without a sign: hexadecimal, octal behind a nought, or decimal. -/
def natural (cs : List Char) : Nat × List Char :=
  match cs with
  | '0' :: x :: c :: rest =>
    if (x = 'x' || x = 'X') && (digitValue? 16 c).isSome then digits 16 0 (c :: rest) else digits 8 0 cs
  | '0' :: _ => digits 8 0 cs
  | _ => digits 10 0 cs

def isSpace (c : Char) : Bool := c = ' ' || ('\t' ≤ c && c ≤ '\r')

/-- A whole text as a number, blanks around it apart. -/
def number? (s : List Char) : Option Int :=
  let s := s.dropWhile isSpace
  let (negated, ds) := match s with
    | '-' :: ds => (true, ds)
    | '+' :: ds => (false, ds)
    | _ => (false, s)
  if ds.head?.any Char.isDigit then
    let (n, rest) := natural ds
    if rest.all isSpace then some (clamp (if negated then -n else n)) else none
  else none

inductive Lexeme
  | number (n : Int)
  | name (s : String)
  | sign (s : String)
  deriving DecidableEq, Repr

/-- The signs, longer ones before their beginnings. -/
def signs : List String := ["<<=", ">>=", "&&", "||", "==", "!=", "<=", ">=", "<<", ">>", "*=", "/=", "%=", "+=",
  "-=", "&=", "^=", "|=", "<", ">", "=", "!", "~", "*", "/", "%", "+", "-", "&", "|", "^", "?", ":", "(", ")"]

/-- The parts of an expression. A character that has no place in one is a sign of its own. -/
def lexemes : Nat → List Char → List Lexeme
  | 0, _ => []
  | fuel + 1, cs =>
    match cs with
    | [] => []
    | c :: rest =>
      if isSpace c then lexemes fuel rest
      else if c.isDigit then
        let (n, rest) := natural cs
        .number (clamp n) :: lexemes fuel rest
      else if c.isAlpha || c = '_' then
        let name := cs.takeWhile fun c => c.isAlphanum || c = '_'
        .name (String.ofList name) :: lexemes fuel (cs.drop name.length)
      else
        match signs.find? fun s => cs.take s.length = s.toList with
        | some s => .sign s :: lexemes fuel (cs.drop s.length)
        | none => .sign (String.ofList [c]) :: lexemes fuel rest

/-- How close a sign binds, and what it means. -/
def binary? (s : String) : Option (Nat × (Expression → Expression → Expression)) :=
  match s with
  | "||" => some (1, .either)
  | "&&" => some (2, .both)
  | "|" => some (3, .binary .or)
  | "^" => some (4, .binary .xor)
  | "&" => some (5, .binary .and)
  | "==" => some (6, .binary .eq)
  | "!=" => some (6, .binary .ne)
  | "<" => some (7, .binary .lt)
  | "<=" => some (7, .binary .le)
  | ">" => some (7, .binary .gt)
  | ">=" => some (7, .binary .ge)
  | "<<" => some (8, .binary .shiftLeft)
  | ">>" => some (8, .binary .shiftRight)
  | "+" => some (9, .binary .add)
  | "-" => some (9, .binary .sub)
  | "*" => some (10, .binary .mul)
  | "/" => some (10, .binary .div)
  | "%" => some (10, .binary .mod)
  | _ => none

/-- The signs that set a variable. -/
def assignment? (s : String) : Option (Option Sign) :=
  match s with
  | "=" => some none
  | "*=" => some (some .mul)
  | "/=" => some (some .div)
  | "%=" => some (some .mod)
  | "+=" => some (some .add)
  | "-=" => some (some .sub)
  | "<<=" => some (some .shiftLeft)
  | ">>=" => some (some .shiftRight)
  | "&=" => some (some .and)
  | "^=" => some (some .xor)
  | "|=" => some (some .or)
  | _ => none

mutual

def parseAssignment (fuel : Nat) (ls : List Lexeme) : Except String (Expression × List Lexeme) :=
  match fuel with
  | 0 => .error "expecting primary"
  | fuel + 1 =>
    match ls with
    | .name x :: .sign s :: rest =>
      match assignment? s with
      | some sign => (parseAssignment fuel rest).map fun (a, rest) => (.assign x sign a, rest)
      | none => parseChoice fuel ls
    | _ => parseChoice fuel ls

def parseChoice (fuel : Nat) (ls : List Lexeme) : Except String (Expression × List Lexeme) :=
  match fuel with
  | 0 => .error "expecting primary"
  | fuel + 1 => do
    let (a, rest) ← parsePrimary fuel ls
    let (a, rest) ← parseBinary fuel 1 a rest
    match rest with
    | .sign "?" :: rest =>
      let (b, rest) ← parseAssignment fuel rest
      match rest with
      | .sign ":" :: rest =>
        let (c, rest) ← parseChoice fuel rest
        return (.choice a b c, rest)
      | _ => throw "expecting ':'"
    | _ => return (a, rest)

/-- What follows a first operand, as far as its signs bind as close as `least`. -/
def parseBinary (fuel least : Nat) (a : Expression) (ls : List Lexeme) : Except String (Expression × List Lexeme) :=
  match fuel with
  | 0 => .error "expecting primary"
  | fuel + 1 =>
    match ls with
    | .sign s :: rest =>
      match binary? s with
      | some (closeness, make) =>
        if closeness < least then .ok (a, ls)
        else do
          let (b, rest) ← parsePrimary fuel rest
          let (b, rest) ← parseBinary fuel (closeness + 1) b rest
          parseBinary fuel least (make a b) rest
      | none => .ok (a, ls)
    | _ => .ok (a, ls)

def parsePrimary (fuel : Nat) (ls : List Lexeme) : Except String (Expression × List Lexeme) :=
  match fuel with
  | 0 => .error "expecting primary"
  | fuel + 1 =>
    match ls with
    | .number n :: rest => .ok (.number n, rest)
    | .name x :: rest => .ok (.variable x, rest)
    | .sign "(" :: rest => do
      match ← parseAssignment fuel rest with
      | (a, .sign ")" :: rest) => return (a, rest)
      | _ => throw "expecting ')'"
    | .sign "+" :: rest => parsePrimary fuel rest
    | .sign "-" :: rest => (parsePrimary fuel rest).map fun (a, rest) => (.negative a, rest)
    | .sign "!" :: rest => (parsePrimary fuel rest).map fun (a, rest) => (.falsity a, rest)
    | .sign "~" :: rest => (parsePrimary fuel rest).map fun (a, rest) => (.complement a, rest)
    | _ => .error "expecting primary"

end

def parse (s : List Char) : Except String Expression := do
  let ls := lexemes (s.length + 1) s
  match ← parseAssignment (30 * ls.length + 30) ls with
  | (e, []) => return e
  | _ => throw "expecting EOF"

/-- What a sign makes of two numbers; none is a division by nought. -/
def apply (s : Sign) (a b : Int) : Option Int :=
  match s with
  | .mul => some (wrap (a * b))
  | .div => if b = 0 then none else some (wrap (a.tdiv b))
  | .mod => if b = 0 then none else some (a.tmod b)
  | .add => some (wrap (a + b))
  | .sub => some (wrap (a - b))
  | .shiftLeft => some (wrap (a * Nat.pow 2 (bits b % 64)))
  | .shiftRight => some (a / Nat.pow 2 (bits b % 64))
  | .lt => some (ofBool (a < b))
  | .le => some (ofBool (a ≤ b))
  | .gt => some (ofBool (a > b))
  | .ge => some (ofBool (a ≥ b))
  | .eq => some (ofBool (a = b))
  | .ne => some (ofBool (a ≠ b))
  | .and => some (wrap (bits a &&& bits b))
  | .xor => some (wrap (bits a ^^^ bits b))
  | .or => some (wrap (bits a ||| bits b))

/-- Why an expression has no value. -/
inductive Failure
  | division
  | notANumber (s : List Char)
  /-- The script ended at an assignment. -/
  | ended (st : State)

def valueOf (st : State) (name : String) : Except Failure Int :=
  match st.value? name with
  | none => .ok 0
  | some [] => .ok 0
  | some s =>
    match number? s with
    | some n => .ok n
    | none => .error (.notANumber s)

def applied (s : Sign) (a b : Int) : Except Failure Int :=
  match apply s a b with
  | some n => .ok n
  | none => .error .division

def eval (st : State) : Expression → Except Failure (Int × State)
  | number n => .ok (n, st)
  | «variable» name => (valueOf st name).map (·, st)
  | negative a => do
    let (n, st) ← eval st a
    return (wrap (-n), st)
  | complement a => do
    let (n, st) ← eval st a
    return (-n - 1, st)
  | falsity a => do
    let (n, st) ← eval st a
    return (ofBool (n = 0), st)
  | binary s a b => do
    let (m, st) ← eval st a
    let (n, st) ← eval st b
    return (← applied s m n, st)
  | both a b => do
    let (m, st) ← eval st a
    if m = 0 then return (0, st)
    let (n, st) ← eval st b
    return (ofBool (n ≠ 0), st)
  | either a b => do
    let (m, st) ← eval st a
    if m ≠ 0 then return (1, st)
    let (n, st) ← eval st b
    return (ofBool (n ≠ 0), st)
  | choice condition a b => do
    let (m, st) ← eval st condition
    if m ≠ 0 then eval st a else eval st b
  | assign name s a => do
    let (n, st) ← eval st a
    let n ← match s with
      | some s => applied s (← valueOf st name) n
      | none => pure n
    let st := st.assign name (toString n).toList
    if st.isOn then return (n, st) else throw (.ended st)

/-- The value of the text of an expression. A mistake in it ends the script. -/
def evaluate (st : State) (s : List Char) : List Char × State :=
  let mistake (message : String) : List Char × State :=
    ([], st.fail ("arithmetic expression: " ++ message ++ ": \"" ++ String.ofList s ++ "\""))
  match parse s with
  | .error message => mistake message
  | .ok e =>
    match eval st e with
    | .ok (n, st) => ((toString n).toList, st)
    | .error .division => mistake "division by zero"
    | .error (.notANumber s) => ([], st.fail ("Illegal number: " ++ String.ofList s))
    | .error (.ended st) => ([], st)

end Expression

end ModelForge.Shell
