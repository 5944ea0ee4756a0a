import ModelForge.Pattern.Ends
import ModelForge.Pattern.Program
/-!
The machine that runs programs of hard patterns. At a split it leaves a frame with the second way;
when a way fails it goes back to the last frame left. It does so only a limited number of times.
-/

namespace ModelForge.Pattern

open Text (Chars)

namespace Machine

/-- A place in the program and in the text, with what has been noted on the way there. -/
structure Frame where
  instruction : Nat
  place       : Nat
  registers   : Array (Option Nat)
  /-- For each atomic part that is open, how many frames there were before it. -/
  marks       : List Nat

/-- The frames left, with their number. -/
structure Stack where
  frames : List Frame := []
  depth  : Nat := 0

namespace Stack

def push (s : Stack) (f : Frame) : Stack := ⟨f :: s.frames, s.depth + 1⟩

/-- Drops all frames but so many. -/
def cut (s : Stack) (depth : Nat) : Stack := ⟨s.frames.drop (s.depth - depth), min s.depth depth⟩

/-- Drops the frames up to the last one that goes on at an instruction. -/
def dropThrough (instruction : Nat) : List Frame → List Frame
  | [] => []
  | f :: rest => if f.instruction = instruction then rest else dropThrough instruction rest

def cutThrough (s : Stack) (instruction : Nat) : Stack :=
  let rest := dropThrough instruction s.frames
  ⟨rest, rest.length⟩

end Stack

/-- What one instruction comes to. -/
inductive Step
  | go (f : Frame) (s : Stack)
  | fail (s : Stack)

namespace Frame

def next (f : Frame) : Frame := { f with instruction := f.instruction + 1 }

def jump (f : Frame) (distance : Int) : Frame :=
  { f with instruction := ((f.instruction : Int) + distance).toNat }

def register (f : Frame) (n : Nat) : Option Nat := f.registers[n]?.join

def put (f : Frame) (n value : Nat) : Frame := { f with registers := f.registers.setIfInBounds n (some value) }

end Frame

/-- Goes on with another repetition, having counted it. -/
def iterate (f : Frame) (s : Stack) (enough greedy : Bool) (exit : Int) : Step :=
  if !enough then .go f.next s
  else if greedy then .go f.next (s.push (f.jump exit))
  else .go (f.jump exit) (s.push f.next)

/-- Whether a part of the text stands at a place too. -/
def repeatsAt (text : Chars) (low high place : Nat) : Bool :=
  place + (high - low) ≤ text.size &&
    (List.range (high - low)).all fun i => text[low + i]? == text[place + i]?

/-- Carries out an instruction. -/
def step (text : Chars) (f : Frame) (s : Stack) : Instruction → Step
  | .run parts =>
    match endsOfAll text parts f.place with
    | p :: _ => .go { f.next with place := p } s
    | [] => .fail s
  | .one set => if (text[f.place]?).any set.contains then .go { f.next with place := f.place + 1 } s else .fail s
  | .assertion a => if Assertion.holds text f.place a then .go f.next s else .fail s
  | .split first second => .go (f.jump first) (s.push (f.jump second))
  | .jump distance => .go (f.jump distance) s
  | .save n => .go (f.next.put n f.place) s
  | .clear n => .go (f.next.put n 0) s
  | .restore n => .go { f.next with place := (f.register n).getD 0 } s
  | .iterate least most greedy exit counter =>
    let count := (f.register counter).getD 0
    if most = some count then .go (f.jump exit) s
    else iterate (f.put counter (count + 1)) s (least ≤ count) greedy exit
  | .iterateMoving least greedy exit counter place =>
    let count := (f.register counter).getD 0
    if count > 0 && f.register place = some f.place then .fail s
    else
      let f := f.put counter (count + 1)
      iterate (if least ≤ count then f.put place f.place else f) s (least ≤ count) greedy exit
  | .back count => if count ≤ f.place then .go { f.next with place := f.place - count } s else .fail s
  | .refute => .fail (s.cutThrough (f.instruction + 1))
  | .again n =>
    match f.register (2 * n), f.register (2 * n + 1) with
    | some low, some high =>
      if repeatsAt text low high f.place then .go { f.next with place := f.place + (high - low) } s else .fail s
    | _, _ => .fail s
  | .hasMatched n => if (f.register (2 * n)).isSome then .go f.next s else .fail s
  | .beginAtomic => .go { f.next with marks := s.depth :: f.marks } s
  | .endAtomic =>
    match f.marks with
    | mark :: marks => .go { f.next with marks := marks } (s.cut mark)
    | [] => .go f.next s
  | .searchStart => if f.place = 0 then .go f.next s else .fail s

end Machine

/-- How a search for a pattern ends. -/
inductive Outcome
  | found
  | absent
  /-- Too many ways have failed. -/
  | exhausted
  deriving DecidableEq, Repr

namespace Machine

/-- How many times a search may go back to a frame. -/
def retreatLimit : Nat := 1000000

/-- Runs a program; the retreats that are left, and a bound on all steps, are given. -/
def run (code : Array Instruction) (text : Chars) : Nat → Nat → Frame → Stack → Outcome
  | 0, _, _, _ => .exhausted
  | fuel + 1, retreats, f, s =>
    match code[f.instruction]? with
    | none => .found
    | some i =>
      match step text f s i with
      | .go f s => run code text fuel retreats f s
      | .fail s =>
        match s.frames, retreats with
        | [], _ => .absent
        | _ :: _, 0 => .exhausted
        | f :: frames, retreats + 1 => run code text fuel retreats f ⟨frames, s.depth - 1⟩

/-- A bound on the steps of a search. Between two retreats each instruction is met at most a few times
for each place of the text. -/
def stepLimit : Nat := Nat.pow 10 15

end Machine

namespace Program

def search (p : Program) (text : Chars) : Outcome :=
  Machine.run p.code text Machine.stepLimit Machine.retreatLimit ⟨0, 0, Array.replicate p.registers none, []⟩ {}

end Program

end ModelForge.Pattern
