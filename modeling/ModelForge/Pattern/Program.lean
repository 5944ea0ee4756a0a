import ModelForge.Pattern.Weight
/-!
Hard patterns as programs for a machine that tries one way after the other. All that is not hard
and stands in a row is left to one instruction, which takes the way preferred for it and no other.
Distances in a program are counted from the instruction that names them.
-/

namespace ModelForge.Pattern

inductive Instruction
  /-- Goes on behind several patterns in a row, none of which is hard. -/
  | run (parts : List Pattern)
  | one (set : CharSet)
  | assertion (a : Assertion)
  /-- Goes on at the first distance, and at the second one if that fails. -/
  | split (first second : Int)
  | jump (distance : Int)
  /-- Notes the place, or a zero, in a register, or goes back to a place noted. -/
  | save (register : Nat)
  | clear (register : Nat)
  | restore (register : Nat)
  /-- Begins another repetition or goes on behind them; the register counts the repetitions. -/
  | iterate (least : Nat) (most : Option Nat) (greedy : Bool) (exit : Int) (counter : Nat)
  /-- Likewise for what may take nothing: another register holds the place of the last repetition,
  and one that took nothing fails. -/
  | iterateMoving (least : Nat) (greedy : Bool) (exit : Int) (counter place : Nat)
  /-- Goes back by so many characters. -/
  | back (count : Nat)
  /-- Fails, and so does everything begun since the split whose second way begins right behind. -/
  | refute
  | again (group : Nat)
  | hasMatched (group : Nat)
  /-- Between these two, only the way taken counts in the end. -/
  | beginAtomic
  | endAtomic
  | searchStart

abbrev Code := List Instruction

/-- Writing code takes registers, the next free one of which is kept, and fails where what comes
before may have different sizes, or where a part does not fit. -/
abbrev Write := StateT Nat Option

namespace Code

def newRegister : Write Nat := modifyGet fun n => (n, n + 1)

def refuse {α : Type} : Write α := fun _ => none

/-- Leaves patterns that are not hard to one instruction. -/
def ofEasy (parts : List Pattern) : Write Code :=
  if parts.isEmpty then return []
  else if allBoundsAgree parts && weightSum parts ≤ weightLimit then return [.run parts]
  else refuse

def distance (n : Nat) : Int := n

/-- One code after the other is tried. -/
def alternatives : List Code → Code
  | [] => []
  | [code] => code
  | code :: rest =>
    let behind := alternatives rest
    .split 1 (distance (code.length + 2)) :: code ++ .jump (distance (behind.length + 1)) :: behind

def either (greedy : Bool) (near far : Int) : Instruction := if greedy then .split near far else .split far near

/-- The code for repetitions of a part, which takes at least so many characters. -/
def repeated (code : Code) (size least : Nat) (most : Option Nat) (greedy : Bool) : Write Code := do
  let n := distance code.length
  if least = 0 && most = some 1 then return either greedy 1 (n + 1) :: code
  else
    match most with
    | none =>
      if size = 0 then
        let counter ← newRegister
        let place ← newRegister
        return .clear counter :: .iterateMoving least greedy (n + 2) counter place :: code ++ [.jump (-n - 1)]
      else if least = 0 then return either greedy 1 (n + 2) :: code ++ [.jump (-n - 1)]
      else if least = 1 then return code ++ [if greedy then .split (-n) 1 else .split 1 (-n)]
      else
        let counter ← newRegister
        return .clear counter :: .iterate least none greedy (n + 2) counter :: code ++ [.jump (-n - 1)]
    | some most =>
      let counter ← newRegister
      return .clear counter :: .iterate least (some most) greedy (n + 2) counter :: code ++ [.jump (-n - 1)]

/-- The code that looks around with the code for what stands there. -/
def around (ahead present : Bool) (a : Pattern) (code : Write Code) : Write Code := do
  if ahead || a.isFixed then
    let step := fun code => if ahead then code else .back a.leastSize :: code
    if present then
      let register ← newRegister
      return .save register :: step (← code) ++ [.restore register]
    else
      let inner := step (← code)
      return .split 1 (distance (inner.length + 2)) :: inner ++ [.refute]
  else refuse

/-- The code for a part that is taken, for what depends on it, and for what is tried without it. -/
def conditional (condition consequent alternative : Code) : Code :=
  .beginAtomic :: .split 1 (distance (condition.length + consequent.length + 3)) :: condition ++
    .endAtomic :: consequent ++ .jump (distance (alternative.length + 1)) :: alternative

/-- How a row of patterns is split: those at both ends that are not hard, and those between. At the
end, sizes have to be fixed if the way behind can matter. -/
def cut (referred : List Nat) (hard : Bool) (parts : List Pattern) : Nat × Nat :=
  let easy (a : Pattern) : Bool := !a.isHard referred
  let head := (parts.takeWhile fun a => a.isFixed && easy a).length
  let tail := ((parts.drop head).reverse.takeWhile fun a => (!hard || a.isFixed) && easy a).length
  (head, parts.length - head - tail)

mutual

/-- The code for a pattern. Where the way behind can matter, even what is not hard is written out. -/
def ofPattern (referred : List Nat) (hard : Bool) : Pattern → Write Code
  | .empty => return []
  | .one set => return [.one set]
  | .assertion a => return [.assertion a]
  | .seq parts =>
    if !hard && !areHard referred parts then ofEasy [.seq parts]
    else do
      let (head, middle) := cut referred hard parts
      let first ← ofEasy (parts.take head)
      let inner ← ((ofEach referred true parts).drop head |>.take middle).mapM id
      return first ++ inner.flatten ++ (← ofEasy (parts.drop (head + middle)))
  | .alt branches =>
    if !hard && !areHard referred branches then ofEasy [.alt branches]
    else return alternatives (← (ofEach referred hard branches).mapM id)
  | .group n a =>
    if !hard && !isHard referred (.group n a) then ofEasy [.group n a]
    else return .save (2 * n) :: (← ofPattern referred hard a) ++ [.save (2 * n + 1)]
  | .repeated a least most greedy =>
    if !hard && !isHard referred a then ofEasy [.repeated a least most greedy]
    else do
      -- An optional part may be left as easy as it is.
      let single := least = 0 && most = some 1
      let code ← ofPattern referred (if single then hard else hard || isHard referred a) a
      repeated code a.leastSize least most greedy
  | .around false present (.alt branches) =>
    if isFixed (.alt branches) then
      around false present (.alt branches) do
        if areHard referred branches then return alternatives (← (ofEach referred false branches).mapM id)
        else ofEasy [.alt branches]
    else do
      let codes ← (branches.zip (ofEach referred false branches)).mapM fun (b, code) =>
        around false present b code
      return if present then alternatives codes else codes.flatten
  | .around ahead present a => around ahead present a (ofPattern referred false a)
  | .atomic a => return .beginAtomic :: (← ofPattern referred false a) ++ [.endAtomic]
  | .again n => return [.again n]
  | .hasMatched n => return [.hasMatched n]
  | .conditional c a b => do
    let c ← ofPattern referred hard c
    let a ← ofPattern referred hard a
    return conditional c a (← ofPattern referred hard b)
  | .searchStart => return [.searchStart]
  | .reportStart => return [.save 0]

/-- The codes for several patterns. -/
def ofEach (referred : List Nat) (hard : Bool) : List Pattern → List (Write Code)
  | [] => []
  | a :: rest => ofPattern referred hard a :: ofEach referred hard rest

end

end Code

/-- A code with the number of its registers. -/
structure Program where
  code      : Array Instruction
  registers : Nat

namespace Program

/-- The program that looks for a pattern from the beginning of a text on. -/
def ofPattern? (a : Pattern) (referred : List Nat) (groups : Nat) : Option Program := do
  let (code, registers) ← (Code.ofPattern referred true a).run (2 * groups + 2)
  let search : Code := [.split 3 1, .one (.complement .nothing), .jump (-2), .save 0]
  let finish : Code := [.save 1]
  return ⟨(search ++ code ++ finish).toArray, registers⟩

end Program

end ModelForge.Pattern
