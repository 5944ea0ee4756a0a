/-!
Finite numbers of 64-bit binary floating point, as exact rationals `± mantissa · 2 ^ exponent`.
Every operation is exact arithmetic on naturals followed by one `round`, which goes to the
nearest number and, from the middle, to the one with an even mantissa.
-/

namespace ModelForge.Decimal

structure Binary64 where
  negative : Bool
  mantissa : Nat
  exponent : Int
  deriving DecidableEq, Repr

namespace Binary64

/-- The least exponent: of the subnormal numbers and of zero. -/
def leastExponent : Int := -1074

/-- The greatest exponent: a number that needs more has no finite form. -/
def greatestExponent : Int := 971

/-- One more than the greatest mantissa. -/
def mantissaBound : Nat := Nat.pow 2 53

def zero (negative : Bool) : Binary64 := ⟨negative, 0, leastExponent⟩

def isZero (x : Binary64) : Bool := x.mantissa = 0

def negate (x : Binary64) : Binary64 := { x with negative := !x.negative }

def abs (x : Binary64) : Binary64 := { x with negative := false }

/-- The magnitude is `numerator / denominator`. -/
def numerator (x : Binary64) : Nat := x.mantissa * Nat.pow 2 x.exponent.toNat

def denominator (x : Binary64) : Nat := Nat.pow 2 (-x.exponent).toNat

/-- The quotient `num / (den · 2 ^ e)`, rounded to the nearest natural, a half to the even one. -/
def roundedQuotient (num den : Nat) (e : Int) : Nat :=
  let n := num * Nat.pow 2 (-e).toNat
  let d := den * Nat.pow 2 e.toNat
  let q := n / d
  let twice := 2 * (n % d)
  if twice > d || (twice == d && q % 2 == 1) then q + 1 else q

/-- An exponent that gives `num / den` a mantissa of 53 bits, or the least one. -/
def exponentFor (num den : Nat) : Int :=
  let e : Int := (num.log2 : Int) - den.log2 - 53
  let wide := num * Nat.pow 2 (-e).toNat / (den * Nat.pow 2 e.toNat)
  max leastExponent (if wide < mantissaBound then e else e + 1)

/-- The number nearest to `± num / den`; none where that is beyond all of them. -/
def round (negative : Bool) (num den : Nat) : Option Binary64 :=
  if num = 0 then some (zero negative)
  else
    let e := exponentFor num den
    let m := roundedQuotient num den e
    let (m, e) := if m = mantissaBound then (m / 2, e + 1) else (m, e)
    if e > greatestExponent then none else some ⟨negative, m, e⟩

def mul (x y : Binary64) : Option Binary64 :=
  round (x.negative != y.negative) (x.numerator * y.numerator) (x.denominator * y.denominator)

def div (x y : Binary64) : Option Binary64 :=
  round (x.negative != y.negative) (x.numerator * y.denominator) (x.denominator * y.numerator)

/-- The nearest number to `± significand · 10 ^ exponent`. The test on the exponent only
spares the arithmetic of powers that are certainly too large or too small. -/
def ofDecimal (negative : Bool) (significand : Nat) (exponent : Int) : Option Binary64 :=
  if significand = 0 then some (zero negative)
  else
    let top := (significand.log2 : Int) / 3 + 1 + exponent
    if exponent > 400 then none
    else if top < -400 then some (zero negative)
    else round negative (significand * Nat.pow 10 exponent.toNat) (Nat.pow 10 (-exponent).toNat)

/-- The powers of ten that one product or quotient may use. -/
def greatestPower : Nat := 308

def powerOfTen (n : Nat) : Binary64 := (round false (Nat.pow 10 n) 1).getD (zero false)

/-- Scales a number by a power of ten in steps of at most `greatestPower`, each rounded. -/
def scale (x : Binary64) (exponent : Int) : Option Binary64 :=
  if exponent > greatestPower then if x.isZero then some x else none
  else if _ : exponent < -greatestPower then
    if x.isZero then some x
    else (x.div (powerOfTen greatestPower)).bind (scale · (exponent + greatestPower))
  else if exponent ≥ 0 then x.mul (powerOfTen exponent.toNat)
  else x.div (powerOfTen (-exponent).toNat)
termination_by (-exponent).toNat
decreasing_by simp [greatestPower] at *; omega

/-- Reads a decimal by rounding its significand first and scaling that. -/
def ofScaledDecimal (negative : Bool) (significand : Nat) (exponent : Int) : Option Binary64 :=
  ((round false significand 1).bind (scale · exponent)).map fun x => { x with negative := negative }

/-- The value is a whole number. -/
def isWhole (x : Binary64) : Bool := x.numerator % x.denominator = 0

/-- The order of the exact values, with both zeros equal. -/
def compareRatio (x : Binary64) (num : Int) (den : Nat) : Ordering :=
  let left : Int := (if x.negative then -1 else 1) * x.numerator * den
  compare left (num * x.denominator)

end Binary64

end ModelForge.Decimal
