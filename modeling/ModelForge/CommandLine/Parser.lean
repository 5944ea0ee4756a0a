import ModelForge.CommandLine.Flag
/-!
Reading a command line. Arguments are taken one after the other; a flag that waits for its value
is settled only when the next flag comes or the line ends, so that an unknown argument is noticed
before a missing or a wrong value that stands earlier. What the flags exclude is looked at last.
-/

namespace ModelForge.CommandLine

inductive Mode
  | validate (input : Path)
  | generate (input : Path)
  deriving DecidableEq, Repr

/-- A command line that asks for a run. -/
structure Arguments where
  mode         : Mode
  language     : Option String := none
  output       : Option Path := none
  config       : Option Path := none
  grammar      : Option Path := none
  program      : Option Path := none
  reportFormat : ReportFormat := .text
  deriving DecidableEq, Repr

/-- What a command line comes to. -/
inductive Invocation
  | help (long : Bool)
  | version
  | run (arguments : Arguments)
  deriving DecidableEq, Repr

/-- Why reading stops before the end. -/
inductive Stop
  | error (e : UsageError)
  | answer (i : Invocation)
  deriving DecidableEq, Repr

/-- What is read so far. -/
structure State where
  /-- The flags with their values, in order. -/
  given   : List (Flag × String) := []
  /-- A flag whose value stands alone or is still to come. -/
  pending : Option (Flag × Option String) := none
  deriving DecidableEq, Repr

namespace State

/-- Whether a flag admits a value. -/
def checkValue (f : Flag) (v : String) : Except UsageError Unit :=
  match f.valueKind with
  | .path => if v.isEmpty then .error (.missingValue f) else .ok ()
  | .format =>
    if v.isEmpty then .error (.missingValue f)
    else if (ReportFormat.ofName? v).isSome then .ok ()
    else .error (.invalidValue v f)
  | _ => .ok ()

def give (st : State) (f : Flag) (v : String) : Except UsageError State :=
  if st.given.any (·.1 = f) then .error (.repeated f)
  else (checkValue f v).map fun _ => { st with given := st.given ++ [(f, v)] }

/-- Settles the flag that waits. -/
def settle (st : State) : Except UsageError State :=
  match st.pending with
  | none => .ok st
  | some (f, none) => .error (.missingValue f)
  | some (f, some v) => { st with pending := none }.give f v

/-- Whether the next argument can be a value. -/
def awaitsValue (st : State) : Bool :=
  match st.pending with
  | some (_, none) => true
  | _ => false

end State

def settled (st : State) : Except Stop State := st.settle.mapError .error

/-- A flag without a value, in its long or short form. -/
def takeSwitch (st : State) (f : Flag) (long : Bool) : Except Stop State :=
  match settled st with
  | .error e => .error e
  | .ok st =>
    match f with
    | .help => .error (.answer (.help long))
    | .version => .error (.answer .version)
    | _ => .ok st

/-- A flag with a value, which may be attached to it. -/
def takeFlag (st : State) (f : Flag) (attached : Option String) : Except Stop State :=
  match settled st with
  | .error e => .error e
  | .ok st =>
    match attached with
    | some v => (st.give f v).mapError .error
    | none => .ok { st with pending := some (f, none) }

/-- Splits a long flag at its first equals sign. -/
def cutAtEquals (s : List Char) : List Char × Option String :=
  let name := s.takeWhile (· ≠ '=')
  match s.drop name.length with
  | _ :: v => (name, some (String.ofList v))
  | [] => (name, none)

def takeLong (st : State) (s : List Char) : Except Stop State :=
  let (name, attached) := cutAtEquals s
  match Flag.ofLong? (String.ofList name) with
  | none => .error (.error (.unexpectedArgument ("--" ++ String.ofList name)))
  | some f =>
    if f.valueKind = .none then
      match attached with
      | some v => .error (.error (.unexpectedValue v f))
      | none => takeSwitch st f true
    else takeFlag st f attached

/-- Letters behind one dash. The first one that takes a value has the rest of them as its value,
with an equals sign in between or not. -/
def takeLetters (st : State) : List Char → Except Stop State
  | [] => .ok st
  | c :: rest =>
    match Flag.ofLetter? c with
    | none => .error (.error (.unexpectedArgument (String.ofList ['-', c])))
    | some f =>
      if f.valueKind = .none then
        match takeSwitch st f false with
        | .error e => .error e
        | .ok st => takeLetters st rest
      else
        match rest with
        | [] => takeFlag st f none
        | '=' :: v => takeFlag st f (some (String.ofList v))
        | v => takeFlag st f (some (String.ofList v))

/-- An argument that is no flag is the value that is waited for, or too much. -/
def takeValue (st : State) (v : String) : Except Stop State :=
  match st.pending with
  | some (f, none) => .ok { st with pending := some (f, some v) }
  | _ => .error (.error (.unexpectedArgument v))

/-- Takes the arguments; behind two dashes there are only values, and none is expected there. -/
def takeAll (st : State) : List String → Except Stop State
  | [] => settled st
  | a :: rest =>
    match a.toList with
    | ['-', '-'] =>
      match rest with
      | [] => settled st
      | v :: _ => .error (.error (.unexpectedArgument v))
    | '-' :: '-' :: s =>
      match takeLong st s with
      | .error e => .error e
      | .ok st => takeAll st rest
    | '-' :: c :: s =>
      match takeLetters st (c :: s) with
      | .error e => .error e
      | .ok st => takeAll st rest
    | _ =>
      match takeValue st a with
      | .error e => .error e
      | .ok st => takeAll st rest

/-- The value of a flag. -/
def valueOf (given : List (Flag × String)) (f : Flag) : Option String := (given.find? (·.1 = f)).map (·.2)

def pathOf (given : List (Flag × String)) (f : Flag) : Option Path := (valueOf given f).map Path.mk

/-- The one mode that has to be given. -/
def modeOf (given : List (Flag × String)) : Except UsageError Mode :=
  match given.filter fun g => g.1 = .validate || g.1 = .generate with
  | [] => .error .noMode
  | [(.generate, input)] => .ok (.generate ⟨input⟩)
  | [(_, input)] => .ok (.validate ⟨input⟩)
  | a :: b :: _ => .error (.conflict a.1 b.1)

def argumentsOf (given : List (Flag × String)) : Except UsageError Arguments :=
  (modeOf given).map fun mode =>
    { mode
      language := valueOf given .language
      output := pathOf given .output
      config := pathOf given .config
      grammar := pathOf given .grammar
      program := pathOf given .program
      reportFormat := ((valueOf given .reportFormat).bind ReportFormat.ofName?).getD .text }

/-- Reads a command line without the name of the tool. -/
def parse (args : List String) : Except UsageError Invocation :=
  match takeAll {} args with
  | .error (.answer i) => .ok i
  | .error (.error e) => .error e
  | .ok st => (argumentsOf st.given).map .run

end ModelForge.CommandLine
