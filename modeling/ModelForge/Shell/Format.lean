import ModelForge.Shell.Arithmetic
/-!
Formatted output of scripts: backslash escapes, and formats whose conversions take one argument
after the other and are used again while arguments are left.
-/

namespace ModelForge.Shell.Format

def octalValue? (c : Char) : Option Nat := Expression.digitValue? 8 c

/-- Up to so many octal digits as a number, and what follows them. -/
def octal (n : Nat) : Nat → List Char → Nat × List Char
  | 0, cs => (n, cs)
  | more + 1, c :: rest =>
    match octalValue? c with
    | some v => octal (8 * n + v) more rest
    | none => (n, c :: rest)
  | _, [] => (n, [])

/-- The character that a letter behind a backslash stands for. -/
def escaped? (c : Char) : Option Char :=
  match c with
  | 'a' => some '\x07'
  | 'b' => some '\x08'
  | 'e' => some '\x1b'
  | 'f' => some '\x0c'
  | 'n' => some '\n'
  | 'r' => some '\r'
  | 't' => some '\t'
  | 'v' => some '\x0b'
  | '\\' => some '\\'
  | _ => none

/-- The character of a byte, of which more bits do not count. -/
def byte (n : Nat) : Char := Char.ofNat (n % 256)

/-- A text with its escapes resolved. The flag tells that the text asks to write no more. -/
def unescape : Nat → List Char → List Char × Bool
  | 0, _ => ([], false)
  | fuel + 1, cs =>
    let after (s rest : List Char) : List Char × Bool :=
      let (more, stopped) := unescape fuel rest
      (s ++ more, stopped)
    match cs with
    | [] => ([], false)
    | '\\' :: c :: rest =>
      match escaped? c with
      | some d => after [d] rest
      | none =>
        if c = 'c' then ([], true)
        else if (octalValue? c).isSome then
          let (n, rest) := octal 0 3 (if c = '0' then rest else c :: rest)
          after [byte n] rest
        else after ['\\', c] rest
    | c :: rest => after [c] rest

/-- A conversion of a format behind its percent sign. -/
structure Conversion where
  flags     : List Char
  width     : Nat
  precision : Option Nat
  kind      : Char

namespace Conversion

/-- A text in the room that a conversion asks for. -/
def padded (c : Conversion) (s : List Char) : List Char :=
  let missing := List.replicate (c.width - s.length) ' '
  if c.flags.contains '-' then s ++ missing else missing ++ s

/-- A number with its sign and its mark, filled up by noughts where the conversion asks for them. -/
def number (c : Conversion) (sign digits : List Char) : List Char :=
  let digits := match c.precision with
    | some n => List.replicate (n - digits.length) '0' ++ digits
    | none => digits
  let zeros := c.flags.contains '0' && !c.flags.contains '-' && c.precision.isNone
  let missing := c.width - sign.length - digits.length
  c.padded (sign ++ (if zeros then List.replicate missing '0' else []) ++ digits)

def signed (c : Conversion) (n : Int) : List Char :=
  let sign := if n < 0 then ['-'] else if c.flags.contains '+' then ['+'] else if c.flags.contains ' ' then [' '] else []
  c.number sign (Nat.toDigits 10 n.natAbs)

def unsigned (c : Conversion) (n : Nat) : List Char :=
  let marked := c.flags.contains '#' && n ≠ 0
  match c.kind with
  | 'o' => c.number (if marked then ['0'] else []) (Nat.toDigits 8 n)
  | 'x' => c.number (if marked then ['0', 'x'] else []) (Nat.toDigits 16 n)
  | 'X' => c.number (if marked then ['0', 'X'] else []) ((Nat.toDigits 16 n).map Char.toUpper)
  | _ => c.number [] (Nat.toDigits 10 n)

end Conversion

/-- What an argument is as a number, and what is wrong with it. -/
def numberOf (arg : List Char) : Int × Option String :=
  match arg with
  | '\'' :: c :: _ => (c.toNat, none)
  | '"' :: c :: _ => (c.toNat, none)
  | [] => (0, none)
  | _ =>
    let s := arg.dropWhile Expression.isSpace
    let (negated, ds) := match s with
      | '-' :: ds => (true, ds)
      | '+' :: ds => (false, ds)
      | _ => (false, s)
    if ds.head?.any Char.isDigit then
      let (n, rest) := Expression.natural ds
      let n : Int := if negated then -n else n
      let wrong := if !rest.isEmpty then some "not completely converted"
        else if n = Expression.clamp n then none else some "Numerical result out of range"
      (Expression.clamp n, wrong)
    else (0, some "expected numeric value")

/-- A number with a point, as a whole number and the power of ten that it is to be taken times. -/
structure Decimal where
  negated  : Bool
  digits   : Nat
  exponent : Int

namespace Decimal

/-- The number at the beginning of a text, and what follows it. -/
def ofText (s : List Char) : Decimal × List Char :=
  let s := s.dropWhile Expression.isSpace
  let (negated, s) := match s with
    | '-' :: rest => (true, rest)
    | '+' :: rest => (false, rest)
    | _ => (false, s)
  let (whole, rest) := Expression.digits 10 0 s
  let (all, places, rest) := match rest with
    | '.' :: more =>
      let (n, behind) := Expression.digits 10 whole more
      (n, more.length - behind.length, behind)
    | _ => (whole, 0, rest)
  let (exponent, rest) : Int × List Char := match rest with
    | e :: more =>
      let (sign, ds) := match more with
        | '-' :: ds => ('-', ds)
        | '+' :: ds => ('+', ds)
        | ds => ('+', ds)
      if (e = 'e' || e = 'E') && ds.head?.any Char.isDigit then
        let (n, behind) := Expression.digits 10 0 ds
        (if sign = '-' then -n else n, behind)
      else (0, rest)
    | [] => (0, rest)
  (⟨negated, all, exponent - places⟩, rest)

/-- The whole number closest to the number times a power of ten, an even one of two. -/
def scaled (d : Decimal) (power : Int) : Nat :=
  let e := d.exponent + power
  if 0 ≤ e then d.digits * Nat.pow 10 e.toNat
  else
    let m := Nat.pow 10 (-e).toNat
    let q := d.digits / m
    let r := d.digits % m
    if 2 * r > m || (2 * r = m && q % 2 = 1) then q + 1 else q

/-- So many digits behind the point. -/
def fixed (d : Decimal) (places : Nat) : List Char :=
  let ds := Nat.toDigits 10 (d.scaled places)
  let ds := List.replicate (places + 1 - ds.length) '0' ++ ds
  ds.take (ds.length - places) ++ if places = 0 then [] else '.' :: ds.drop (ds.length - places)

/-- The power of ten that the first digit stands for when so many more are kept. -/
def magnitude (d : Decimal) (places : Nat) : Int :=
  if d.digits = 0 then 0
  else
    let first : Int := d.exponent + (Nat.toDigits 10 d.digits).length - 1
    if (Nat.toDigits 10 (d.scaled (places - first))).length > places + 1 then first + 1 else first

/-- One digit before the point, so many behind it, and the power of ten. -/
def scientific (d : Decimal) (places : Nat) (mark : Char) : List Char :=
  let m := d.magnitude places
  let ds := Nat.toDigits 10 (d.scaled (places - m))
  let power := Nat.toDigits 10 m.natAbs
  ds.take 1 ++ (if places = 0 then [] else '.' :: (ds.drop 1 ++ List.replicate (places + 1 - ds.length) '0')) ++
    mark :: (if m < 0 then '-' else '+') :: (List.replicate (2 - power.length) '0' ++ power)

/-- Without the noughts at the end behind a point. -/
def short (s : List Char) : List Char :=
  if s.contains '.' then
    let s := (s.reverse.dropWhile (· = '0')).reverse
    if s.getLast? = some '.' then s.dropLast else s
  else s

/-- So many digits in whichever form is shorter. -/
def general (d : Decimal) (kept : Nat) (mark : Char) : List Char :=
  let kept := max kept 1
  let m := d.magnitude (kept - 1)
  if -4 ≤ m && m < kept then short (d.fixed (kept - 1 - m).toNat)
  else
    let s := d.scientific (kept - 1) mark
    let front := s.takeWhile (· ≠ mark)
    short front ++ s.drop front.length

end Decimal

/-- A number with a point, as a conversion writes it, and what is wrong with the argument. -/
def floating (c : Conversion) (arg : List Char) : List Char × Option String :=
  let (d, rest) := Decimal.ofText arg
  let wrong :=
    if arg.isEmpty || rest.isEmpty then none
    else if rest.length = arg.length then some "expected numeric value" else some "not completely converted"
  let places := c.precision.getD 6
  let ds := match c.kind.toLower with
    | 'f' => d.fixed places
    | 'e' => d.scientific places c.kind
    | _ => d.general places (if c.kind = 'G' then 'E' else 'e')
  let sign := if d.negated then ['-'] else if c.flags.contains '+' then ['+'] else if c.flags.contains ' ' then [' '] else []
  ({ c with precision := none }.number sign ds, wrong)

/-- What one conversion makes of an argument: the text, whether to stop, and what was wrong. -/
def convert (c : Conversion) (arg : List Char) : List Char × Bool × Option String :=
  let cut (s : List Char) : List Char := match c.precision with
    | some n => s.take n
    | none => s
  let blame (wrong : Option String) : Option String := wrong.map fun m => String.ofList arg ++ ": " ++ m
  match c.kind with
  | 's' => (c.padded (cut arg), false, none)
  | 'b' =>
    let (s, stopped) := unescape (arg.length + 1) arg
    (c.padded (cut s), stopped, none)
  | 'c' => (c.padded [arg.head?.getD '\x00'], false, none)
  | kind =>
    if "fFeEgG".toList.contains kind then
      let (s, wrong) := floating c arg
      (s, false, blame wrong)
    else
    let (n, wrong) := numberOf arg
    (if kind = 'd' || kind = 'i' then c.signed n else c.unsigned (Expression.bits n), false, blame wrong)

/-- What is left of a format and its arguments behind a part of it, what it has written, and what was
wrong. A flaw of the format itself ends everything. -/
structure Pass where
  written   : List Char := []
  arguments : List (List Char)
  used      : Bool := false
  stopped   : Bool := false
  wrong     : List String := []
  flaw      : Option String := none

namespace Pass

def put (p : Pass) (s : List Char) : Pass := { p with written := p.written ++ s }

/-- Takes an argument; one that is missing is empty. -/
def next (p : Pass) : List Char × Pass :=
  (p.arguments.head?.getD [], { p with arguments := p.arguments.drop 1, used := true })

end Pass

/-- The width or precision at the beginning of a text: digits, or an asterisk for an argument. -/
def sizeAt (cs : List Char) (p : Pass) : Option Int × List Char × Pass :=
  match cs with
  | '*' :: rest =>
    let (arg, p) := p.next
    (some (numberOf arg).1, rest, p)
  | _ =>
    let ds := cs.takeWhile Char.isDigit
    ((String.ofList ds).toNat?.map Int.ofNat, cs.drop ds.length, p)

/-- The conversion at the beginning of a text. -/
def conversionAt (cs : List Char) (p : Pass) : Option (Conversion × List Char × Pass) :=
  let flags := cs.takeWhile fun c => "-+ #0".toList.contains c
  let (width, rest, p) := sizeAt (cs.drop flags.length) p
  let (precision, rest, p) := match rest with
    | '.' :: rest =>
      let (n, rest, p) := sizeAt rest p
      (some (n.getD 0), rest, p)
    | _ => (none, rest, p)
  let width := width.getD 0
  let flags := if width < 0 then '-' :: flags else flags
  match rest with
  | kind :: rest => some (⟨flags, width.natAbs, (precision.filter (0 ≤ ·)).map Int.toNat, kind⟩, rest, p)
  | [] => none

/-- One pass of a format over its arguments. -/
def once : Nat → List Char → Pass → Pass
  | 0, _, p => p
  | fuel + 1, cs, p =>
    match cs with
    | [] => p
    | '%' :: '%' :: rest => once fuel rest (p.put ['%'])
    | '%' :: rest =>
      match conversionAt rest p with
      | none => { p with flaw := some "missing format character" }
      | some (c, behind, p) =>
        if "sbcdiouxXfFeEgG".toList.contains c.kind then
          let (arg, p) := p.next
          let (s, stopped, wrong) := convert c arg
          let p := { p.put s with wrong := p.wrong ++ wrong.toList }
          if stopped then { p with stopped := true } else once fuel behind p
        else
          let directive := cs.take (cs.length - behind.length)
          { p with flaw := some (String.ofList directive ++ ": invalid directive") }
    | '\\' :: c :: rest =>
      match escaped? c with
      | some d => once fuel rest (p.put [d])
      | none =>
        if (octalValue? c).isSome then
          let (n, rest) := octal 0 3 (c :: rest)
          once fuel rest (p.put [byte n])
        else once fuel rest (p.put ['\\', c])
    | c :: rest => once fuel rest (p.put [c])

/-- A format over all of its arguments. -/
def all (format : List Char) : Nat → Pass → Pass
  | 0, p => p
  | fuel + 1, p =>
    let p := once (format.length + 1) format { p with used := false }
    if p.arguments.isEmpty || p.stopped || !p.used || p.flaw.isSome then p else all format fuel p

end ModelForge.Shell.Format
