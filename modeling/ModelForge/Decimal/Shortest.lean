import ModelForge.Decimal.Binary64
/-!
The fewest decimal digits that round back to a given number, and of those the nearest ones.
A decimal of `n` digits that rounds back exists only if one of the two neighbours of the number
on the grid of `n` digits does, so the search tests these two for growing `n`.
-/

namespace ModelForge.Decimal

/-- The decimal `digits · 10 ^ exponent`. -/
structure Digits where
  digits   : Nat
  exponent : Int
  deriving DecidableEq, Repr

/-- The fraction `num / den` of naturals. -/
structure Ratio where
  num : Nat
  den : Nat

namespace Ratio

def le (x y : Ratio) : Bool := x.num * y.den ≤ y.num * x.den

def lt (x y : Ratio) : Bool := x.num * y.den < y.num * x.den

/-- Scales by a power of ten. -/
def scaleTen (x : Ratio) (e : Int) : Ratio := ⟨x.num * Nat.pow 10 e.toNat, x.den * Nat.pow 10 (-e).toNat⟩

end Ratio

namespace Binary64

def ratio (x : Binary64) : Ratio := ⟨x.numerator, x.denominator⟩

/-- The lower end of the decimals that round to a number. Below a power of two the numbers lie
twice as dense. -/
def lowerEnd (x : Binary64) : Ratio :=
  let quarters := if x.mantissa = mantissaBound / 2 && x.exponent > leastExponent then 1 else 2
  ⟨(4 * x.mantissa - quarters) * Nat.pow 2 x.exponent.toNat, 4 * x.denominator⟩

def upperEnd (x : Binary64) : Ratio :=
  ⟨(4 * x.mantissa + 2) * Nat.pow 2 x.exponent.toNat, 4 * x.denominator⟩

/-- Whether a decimal rounds to the number: the ends belong to an even mantissa. -/
def admits (x : Binary64) (r : Ratio) : Bool :=
  if x.mantissa % 2 = 0 then x.lowerEnd.le r && r.le x.upperEnd
  else x.lowerEnd.lt r && r.lt x.upperEnd

/-- The exponent of the first digit: `10 ^ e ≤ num / den < 10 ^ (e + 1)`. -/
def decimalExponent (r : Ratio) : Int :=
  let guess : Int := ((r.num.log2 : Int) - r.den.log2) * 30103 / 100000
  let tens (e : Int) : Ratio := Ratio.scaleTen ⟨1, 1⟩ e
  if (tens (guess + 1)).le r then guess + 1
  else if (tens guess).le r then guess
  else guess - 1

/-- The nearer of the two neighbours on the grid of `10 ^ e` that rounds back. -/
def neighbour? (x : Binary64) (e : Int) : Option Digits :=
  let scaled := x.ratio.scaleTen (-e)
  let low := scaled.num / scaled.den
  let fits (d : Nat) : Bool := x.admits (Ratio.scaleTen ⟨d, 1⟩ e)
  let twice := 2 * (scaled.num % scaled.den)
  let preferHigh := twice > scaled.den || (twice == scaled.den && low % 2 == 1)
  match fits low && low != 0, fits (low + 1) with
  | true, true => some ⟨if preferHigh then low + 1 else low, e⟩
  | true, false => some ⟨low, e⟩
  | false, true => some ⟨low + 1, e⟩
  | false, false => none

/-- Seventeen digits always suffice, so the search ends at the latest there. -/
def shortestFrom (x : Binary64) (top : Int) : Nat → Digits
  | 0 => ⟨x.mantissa, x.exponent⟩
  | fuel + 1 =>
    let n : Nat := 17 - fuel
    match x.neighbour? (top - n + 1) with
    | some d => d
    | none => shortestFrom x top fuel

def dropZeros (d : Digits) : Nat → Digits
  | 0 => d
  | fuel + 1 => if d.digits ≠ 0 && d.digits % 10 = 0 then dropZeros ⟨d.digits / 10, d.exponent + 1⟩ fuel else d

/-- The shortest decimal of a number other than zero. -/
def shortest (x : Binary64) : Digits :=
  if x.isZero then ⟨0, 0⟩ else dropZeros (shortestFrom x (decimalExponent x.ratio) 17) 20

end Binary64

/-- How a decimal is laid out: exponents of the first digit between these two are written
positionally, all others with an explicit exponent. -/
structure Layout where
  leastPositional    : Int
  greatestPositional : Int
  plusSign           : Bool

namespace Layout

def zeros (n : Nat) : String := String.ofList (List.replicate n '0')

/-- Writes a decimal; a whole number in positional form ends in `.0`. -/
def write (l : Layout) (d : Digits) : String :=
  let ds := toString d.digits
  let top : Int := d.exponent + ds.length - 1
  if l.leastPositional ≤ top && top ≤ l.greatestPositional then
    if d.exponent ≥ 0 then ds ++ zeros d.exponent.toNat ++ ".0"
    else if top ≥ 0 then
      String.ofList (ds.toList.take (top.toNat + 1)) ++ "." ++ String.ofList (ds.toList.drop (top.toNat + 1))
    else "0." ++ zeros (-top - 1).toNat ++ ds
  else
    let head := String.ofList (ds.toList.take 1)
    let tail := String.ofList (ds.toList.drop 1)
    let sign := if top < 0 then "-" else if l.plusSign then "+" else ""
    head ++ (if tail.isEmpty then "" else "." ++ tail) ++ "e" ++ sign ++ toString top.natAbs

end Layout

end ModelForge.Decimal
