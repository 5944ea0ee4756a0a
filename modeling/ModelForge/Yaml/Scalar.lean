import ModelForge.Yaml.Document
import ModelForge.Decimal.Shortest
import ModelForge.Text.Printable
/-!
What a scalar means. A plain scalar is null, a truth value, an integer or a number where it is
written like one, and text otherwise; quoted scalars are text; a tag of the core schema decides
by itself.
-/

namespace ModelForge.Yaml

open Decimal

inductive Meaning
  | null
  | bool (value : Bool)
  | int (value : Int)
  /-- An integer beyond 64 bits; the flag tells that it is written without a minus. -/
  | wide (unsigned : Bool) (value : Int)
  | real (value : Binary64)
  | infinite (negative : Bool)
  | notANumber
  | text (value : String)
  deriving DecidableEq, Repr

def isNullWord (s : String) : Bool := s = "null" || s = "Null" || s = "NULL" || s = "~"

def truth? (s : String) : Option Bool :=
  if s = "true" || s = "True" || s = "TRUE" then some true
  else if s = "false" || s = "False" || s = "FALSE" then some false
  else none

/-- Zeros before other digits make a text of digits no number. -/
def isPaddedDigits (s : List Char) : Bool :=
  let body := match s with
    | '-' :: r => r
    | '+' :: r => r
    | r => r
  match body with
  | '0' :: r => !r.isEmpty && r.all Char.isDigit
  | _ => false

/-- The natural number of at least one digit to a base. -/
def digits? (base : Nat) (s : List Char) : Option Nat :=
  if s.isEmpty then none
  else s.foldlM (fun n c => (Char.hexValue? c).bind fun d => if d < base then some (n * base + d) else none) 0

/-- The base that a letter after a zero announces. -/
def base? (c : Char) : Option Nat :=
  match c with
  | 'x' => some 16
  | 'o' => some 8
  | 'b' => some 2
  | _ => none

def unsigned? (s : List Char) : Option Nat :=
  let body := match s with
    | '+' :: r => r
    | r => r
  let based := match body with
    | '0' :: c :: r => (base? c).bind (digits? · r)
    | _ => none
  match based with
  | some n => some n
  | none => if isPaddedDigits s then none else digits? 10 body

def negative? (s : List Char) : Option Int :=
  let based := match s with
    | '-' :: '0' :: c :: r => (base? c).bind (digits? · r)
    | _ => none
  match based, s with
  | some n, _ => some (-n)
  | none, '-' :: r => if isPaddedDigits s then none else (digits? 10 r).map fun n => -(n : Int)
  | none, _ => none

/-- The integer that a text is written as, if it has at most 128 bits. -/
def integer? (s : List Char) : Option Meaning :=
  match unsigned? s, negative? s with
  | some n, _ =>
    if n < Nat.pow 2 64 then some (.int n) else if n < Nat.pow 2 128 then some (.wide true n) else none
  | none, some n =>
    if n ≥ -Nat.pow 2 63 then some (.int n) else if n ≥ -Nat.pow 2 127 then some (.wide false n) else none
  | none, none => none

/-- A decimal behind its sign: significand and exponent. -/
def decimal? (s : List Char) : Option (Nat × Int) :=
  let whole := s.takeWhile Char.isDigit
  let s := s.drop whole.length
  let (fraction, s) := match s with
    | '.' :: r => (r.takeWhile Char.isDigit, r.dropWhile Char.isDigit)
    | r => ([], r)
  let value (ds : List Char) : Nat := ds.foldl (fun n d => 10 * n + (d.toNat - 48)) 0
  let significand := value (whole ++ fraction)
  if whole.isEmpty && fraction.isEmpty then none
  else
    match s with
    | [] => some (significand, -fraction.length)
    | e :: r =>
      let (down, ds) := match r with
        | '-' :: r => (true, r)
        | '+' :: r => (false, r)
        | r => (false, r)
      if (e ≠ 'e' && e ≠ 'E') || ds.isEmpty || !ds.all Char.isDigit then none
      else
        let shift : Int := value ds
        some (significand, (if down then -shift else shift) - fraction.length)

/-- The number that a text is written as; an overflowing decimal is none. -/
def real? (s : String) : Option Meaning :=
  if [".inf", ".Inf", ".INF", "+.inf", "+.Inf", "+.INF"].contains s then some (.infinite false)
  else if ["-.inf", "-.Inf", "-.INF"].contains s then some (.infinite true)
  else if [".nan", ".NaN", ".NAN"].contains s then some .notANumber
  else
    let (negative, body) := match s.toList with
      | '-' :: r => (true, r)
      | '+' :: r => (false, r)
      | r => (false, r)
    (decimal? body).bind fun (m, e) => (Binary64.ofDecimal negative m e).map .real

/-- The meaning of a plain scalar without a tag. -/
def Meaning.ofPlain (s : String) : Meaning :=
  if s = "" || isNullWord s then .null
  else
    match truth? s with
    | some b => .bool b
    | none =>
      match integer? s.toList with
      | some m => m
      | none =>
        if isPaddedDigits s.toList then .text s
        else (real? s).getD (.text s)

/-- A scalar whose tag does not fit its text. -/
structure Misfit where
  text     : String
  expected : String
  deriving DecidableEq, Repr

/-- A tag of the core schema. -/
def coreTag (name : String) : String := "tag:yaml.org,2002:" ++ name

/-- The meaning of a scalar with its tag, which here is none of the document's own. -/
def Meaning.ofScalar (tag : Option String) (s : String) (style : ScalarStyle) : Except Misfit Meaning :=
  match tag with
  | none => .ok (if style = .plain then .ofPlain s else .text s)
  | some t =>
    if t = coreTag "bool" then
      match truth? s with
      | some b => .ok (.bool b)
      | none => .error ⟨s, "a boolean"⟩
    else if t = coreTag "int" then
      match integer? s.toList with
      | some m => .ok m
      | none => .error ⟨s, "an integer"⟩
    else if t = coreTag "float" then
      match real? s with
      | some m => .ok m
      | none => .error ⟨s, "a float"⟩
    else if t = coreTag "null" then
      if isNullWord s then .ok .null else .error ⟨s, "null"⟩
    else if t.startsWith "!" && style = .plain then .ok (.ofPlain s)
    else .ok (.text s)

def Misfit.message (m : Misfit) : String :=
  "invalid value: string " ++ Text.quoted m.text ++ ", expected " ++ m.expected

/-- All digits of a number, with at least one behind the point. -/
def positional (x : Binary64) : String :=
  let all : Layout := ⟨-10000, 10000, false⟩
  (if x.negative then "-" else "") ++ if x.isZero then "0.0" else all.write x.shortest

/-- A meaning as it is called where something else was expected. -/
def Meaning.describe : Meaning → String
  | .null => "unit value"
  | .bool b => "boolean `" ++ (if b then "true" else "false") ++ "`"
  | .int n => s!"integer `{n}`"
  | .wide true n => s!"integer `{n}` as u128"
  | .wide false n => s!"integer `{n}` as i128"
  | .real x => "floating point `" ++ positional x ++ "`"
  | .infinite negative => "floating point `" ++ (if negative then "-inf" else "inf") ++ "`"
  | .notANumber => "floating point `NaN`"
  | .text s => "string " ++ Text.quoted s

end ModelForge.Yaml
