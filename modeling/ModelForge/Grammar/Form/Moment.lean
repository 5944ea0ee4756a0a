/-!
Dates and times of day in their international notation.
-/

namespace ModelForge.Grammar.Moment

/-- The number that some decimal digits write. -/
def number? (ds : List Char) : Option Nat :=
  if ds.all Char.isDigit then some (ds.foldl (fun n c => 10 * n + (c.toNat - 48)) 0) else none

def isLeapYear (year : Nat) : Bool := year % 4 = 0 && (year % 100 ≠ 0 || year % 400 = 0)

def daysInMonth (year month : Nat) : Nat :=
  if month = 2 then if isLeapYear year then 29 else 28
  else if [4, 6, 9, 11].contains month then 30
  else 31

/-- A year of four digits, a month and a day that it has. -/
def isDate (cs : List Char) : Bool :=
  match cs with
  | [y₁, y₂, y₃, y₄, '-', m₁, m₂, '-', d₁, d₂] =>
    match number? [y₁, y₂, y₃, y₄], number? [m₁, m₂], number? [d₁, d₂] with
    | some year, some month, some day => 1 ≤ month && month ≤ 12 && 1 ≤ day && day ≤ daysInMonth year month
    | _, _, _ => false
  | _ => false

/-- How many minutes local time is ahead of universal time; `Z` stands for none. -/
def offset? (cs : List Char) : Option Int :=
  match cs with
  | ['Z'] => some 0
  | ['z'] => some 0
  | [sign, h₁, h₂, ':', m₁, m₂] =>
    match number? [h₁, h₂], number? [m₁, m₂] with
    | some hours, some minutes =>
      let size : Int := hours * 60 + minutes
      if hours > 23 || minutes > 59 then none
      else if sign = '+' then some size
      else if sign = '-' then some (-size)
      else none
    | _, _ => none
  | _ => none

/-- The rest behind the fraction of a second, if there is one. -/
def dropFraction? (cs : List Char) : Option (List Char) :=
  match cs with
  | '.' :: rest => if rest.head?.any Char.isDigit then some (rest.dropWhile Char.isDigit) else none
  | _ => some cs

/-- Hours, minutes and seconds with an offset. The only minute with a leap second is the last one of
a day of universal time. -/
def isTime (cs : List Char) : Bool :=
  match cs with
  | h₁ :: h₂ :: ':' :: m₁ :: m₂ :: ':' :: s₁ :: s₂ :: rest =>
    match number? [h₁, h₂], number? [m₁, m₂], number? [s₁, s₂], (dropFraction? rest).bind offset? with
    | some hour, some minute, some second, some offset =>
      hour ≤ 23 && minute ≤ 59 && second ≤ 60 &&
        (second < 60 || ((hour * 60 + minute : Nat) - offset : Int) % (24 * 60) = 24 * 60 - 1)
    | _, _, _, _ => false
  | _ => false

/-- A date and a time with the letter T between them. -/
def isDateTime (cs : List Char) : Bool :=
  let date := cs.takeWhile fun c => c ≠ 'T' && c ≠ 't'
  date.length < cs.length && isDate date && isTime (cs.drop (date.length + 1))

end ModelForge.Grammar.Moment
