import ModelForge.Shell.Arithmetic
import ModelForge.Shell.Installed
/-!
Conditions of scripts: texts and numbers are compared, files are looked at, and conditions are put
together. Which words are operators depends on the words around them.
-/

namespace ModelForge.Shell.Test

inductive Kind
  | unary
  | binary
  | negation
  | conjunction
  | disjunction
  | opening
  | closing
  deriving DecidableEq, Repr

def kind? (word : List Char) : Option Kind :=
  match String.ofList word with
  | "!" => some .negation
  | "-a" => some .conjunction
  | "-o" => some .disjunction
  | "(" => some .opening
  | ")" => some .closing
  | s =>
    if ["=", "!=", "<", ">", "-eq", "-ne", "-gt", "-ge", "-lt", "-le", "-nt", "-ot", "-ef"].contains s then some .binary
    else
      match word with
      | ['-', c] => if "rwxefdcbpugkstznhOGLS".toList.contains c then some .unary else none
      | _ => none

/-- What a word is in its place. -/
inductive Lexeme
  | finish
  | operand
  | operator (k : Kind)
  deriving DecidableEq, Repr

variable (words : List (List Char))

/-- The word at a place. An operator at the end, or one before which a comparison stands, is a plain
word. -/
def lexeme (n : Nat) : Lexeme :=
  match words[n]? with
  | none => .finish
  | some w =>
    match kind? w with
    | none => .operand
    | some .unary =>
      match words[n + 1]?, words[n + 2]? with
      | none, _ => .operand
      | some _, none => .operator .unary
      | some next, some _ => if kind? next = some .binary then .operand else .operator .unary
    | some .opening => if words[n + 1]?.isNone then .operand else .operator .opening
    | some k => .operator k

/-- Whether something lies at a path, programs that are installed included. -/
def isThere (st : State) (path : List Char) : Bool :=
  st.files.exists (pathOf path) || (Installed.at? (pathOf path).text).isSome

def isDevice (path : List Char) : Bool := path.take 5 = "/dev/".toList

def unary (st : State) (op : Char) (a : List Char) : Bool :=
  let path := pathOf a
  match op with
  | 'n' => !a.isEmpty
  | 'z' => a.isEmpty
  | 'f' => !isDevice a && (st.files.isFile path || (Installed.at? path.text).isSome)
  | 'c' => isDevice a && st.files.exists path
  | 'd' => st.files.isDirectory path
  | 's' =>
    match st.files.read path with
    | .ok content => !content.isEmpty
    | .error _ => isThere st a
  | 'x' =>
    match st.files.entry path with
    | .ok (.file _ executable) => executable
    | .ok _ => true
    | .error _ => isThere st a
  | 'h' => isLink path
  | 'L' => isLink path
  | 'e' => isThere st a
  | 'r' => isThere st a && isAllowed .read path
  | 'w' => isThere st a && isAllowed .write path
  | 'O' => isThere st a
  | 'G' => isThere st a
  | _ => false
where
  isLink (path : Path) : Bool :=
    match st.files.resolveLink path with
    | .ok (.entry _ (.link _)) => true
    | _ => false
  isAllowed (access : Access) (path : Path) : Bool :=
    match st.files.resolve path with
    | .ok (.entry l _) => st.files.allows access l
    | _ => true

/-- The number that a word is. -/
def number (w : List Char) : Except String Int :=
  let s := w.dropWhile Expression.isSpace
  let (negated, ds) := match s with
    | '-' :: ds => (true, ds)
    | '+' :: ds => (false, ds)
    | _ => (false, s)
  let (n, rest) := Expression.digits 10 0 ds
  if ds.head?.any Char.isDigit && rest.all Expression.isSpace then .ok (if negated then -n else n)
  else .error ("Illegal number: " ++ String.ofList w)

def binary (st : State) (op : String) (a b : List Char) : Except String Bool := do
  let compare (p : Int → Int → Bool) : Except String Bool := return p (← number a) (← number b)
  match op with
  | "=" => return a = b
  | "!=" => return a ≠ b
  | "<" => return decide (a < b)
  | ">" => return decide (b < a)
  | "-eq" => compare fun x y => x = y
  | "-ne" => compare fun x y => x ≠ y
  | "-gt" => compare fun x y => x > y
  | "-ge" => compare fun x y => x ≥ y
  | "-lt" => compare fun x y => x < y
  | "-le" => compare fun x y => x ≤ y
  | "-ef" =>
    match st.files.resolve (pathOf a), st.files.resolve (pathOf b) with
    | .ok (.entry l _), .ok (.entry m _) => return l = m
    | _, _ => return false
  | "-nt" => return isThere st a && !isThere st b
  | _ => return isThere st b && !isThere st a

mutual

/-- Conditions of which one has to hold, from a place on: the outcome and the place of the last word. -/
def disjunction (st : State) (fuel : Nat) (l : Lexeme) (n : Nat) : Except String (Bool × Nat) :=
  match fuel with
  | 0 => .ok (false, n)
  | fuel + 1 => do
    let (r, n) ← conjunction st fuel l n
    if lexeme words (n + 1) = .operator .disjunction then
      let (more, n) ← disjunction st fuel (lexeme words (n + 2)) (n + 2)
      return (r || more, n)
    return (r, n)

def conjunction (st : State) (fuel : Nat) (l : Lexeme) (n : Nat) : Except String (Bool × Nat) :=
  match fuel with
  | 0 => .ok (false, n)
  | fuel + 1 => do
    let (r, n) ← negation st fuel l n
    if lexeme words (n + 1) = .operator .conjunction then
      let (more, n) ← conjunction st fuel (lexeme words (n + 2)) (n + 2)
      return (r && more, n)
    return (r, n)

def negation (st : State) (fuel : Nat) (l : Lexeme) (n : Nat) : Except String (Bool × Nat) :=
  match fuel with
  | 0 => .ok (false, n)
  | fuel + 1 =>
    if l = .operator .negation then
      let next := lexeme words (n + 1)
      (negation st fuel next (if next = .finish then n else n + 1)).map fun (r, n) => (!r, n)
    else primary st fuel l n

def primary (st : State) (fuel : Nat) (l : Lexeme) (n : Nat) : Except String (Bool × Nat) :=
  match fuel with
  | 0 => .ok (false, n)
  | fuel + 1 =>
    let word := words[n]?.getD []
    match l with
    | .finish => .ok (false, n)
    | .operator .opening =>
      let next := lexeme words (n + 1)
      if next = .operator .closing then .ok (false, n + 1)
      else do
        let (r, n) ← disjunction st fuel next (n + 1)
        if lexeme words (n + 1) = .operator .closing then return (r, n + 1)
        throw "closing paren expected"
    | .operator .unary =>
      match words[n + 1]? with
      | none => .error (String.ofList word ++ ": argument expected")
      | some a => .ok (unary st (word.getLast?.getD ' ') a, n + 1)
    | _ =>
      if lexeme words (n + 1) = .operator .binary then
        let op := String.ofList (words[n + 1]?.getD [])
        match words[n + 2]? with
        | none => .error (op ++ ": argument expected")
        | some b => (binary st op word b).map (·, n + 2)
      else .ok (!word.isEmpty, n)

end

/-- The outcome of words that belong together in whole. -/
def whole (st : State) (l : Lexeme) : Except String Bool := do
  let (r, n) ← disjunction words st (4 * words.length + 8) l 0
  match words[n]?, words[n + 1]? with
  | some w, some _ => throw (String.ofList w ++ ": unexpected operator")
  | _, _ => return r

/-- The outcome of a condition. Few words are looked at in a way of their own, so that a comparison in
the middle comes first, then brackets around and a negation before the rest. -/
def holds (st : State) : List (List Char) → Except String Bool
  | [] => .ok false
  | [a] => whole [a] st (lexeme [a] 0)
  | [a, b] => whole [a, b] st (lexeme [a, b] 0)
  | [a, b, c] =>
    if kind? b = some .binary then whole [a, b, c] st .operand
    else if a = ['('] && c = [')'] then whole [b] st (lexeme [b] 0)
    else if a = ['!'] then (whole [b, c] st (lexeme [b, c] 0)).map (!·)
    else whole [a, b, c] st (lexeme [a, b, c] 0)
  | [a, b, c, d] =>
    if a = ['('] && d = [')'] then whole [b, c] st (lexeme [b, c] 0)
    else if a = ['!'] then (holds st [b, c, d]).map (!·)
    else whole [a, b, c, d] st (lexeme [a, b, c, d] 0)
  | words => whole words st (lexeme words 0)

end ModelForge.Shell.Test
