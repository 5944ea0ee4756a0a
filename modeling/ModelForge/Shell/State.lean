import ModelForge.Emitter
import ModelForge.Shell.Command
/-!
The state of a running script: its parameters, where its streams lead, what has been written so far,
and whether it goes on. Scripts know bytes only; a byte is kept as the character of its number.
-/

namespace ModelForge.Shell

/-- Bytes as the characters of their numbers. -/
def lettersOf (bs : Bytes) : List Char := bs.map fun b => Char.ofNat b.toNat

/-- The bytes that such characters stand for. -/
def bytesOf (s : List Char) : Bytes := s.map fun c => UInt8.ofNat c.toNat

def letters (s : String) : List Char := lettersOf (Text.Utf8.encode s.toList)

def pathOf (s : List Char) : Path := ⟨String.ofList (Text.Utf8.decodeLossy (bytesOf s))⟩

/-- What a stream leads to. -/
inductive Channel
  /-- Bytes that are kept until they are read. -/
  | buffer (id : Nat)
  /-- The end of a file. -/
  | file (location : Location)
  | directory
  | nowhere
  /-- A device without any room. -/
  | full
  deriving DecidableEq, Repr

/-- Why a stream cannot be used. -/
inductive StreamError
  | closed
  | noRoom
  | isDirectory
  deriving DecidableEq, Repr

namespace StreamError

def reason : StreamError → String
  | closed => "Bad file descriptor"
  | noRoom => "No space left on device"
  | isDirectory => "Is a directory"

end StreamError

/-- How a script goes on behind a command. -/
inductive Flow
  | on
  /-- Loops are left, so many of them; the last one may go on with its next turn. -/
  | leave (again : Bool) (levels : Nat)
  /-- A function is left. -/
  | returned
  | ended (e : ExitStatus)
  deriving DecidableEq, Repr

structure State where
  files       : FileSystem
  /-- The name that the script was started by. -/
  script      : List Char
  arguments   : List (List Char)
  /-- Whether complaints speak of lines and commands, and a backslash is written as it is. -/
  talkative   : Bool := false
  /-- The number by which the running script is known. -/
  process     : Nat := 4242
  /-- The line of the command that is being run. -/
  line        : Nat := 1
  /-- The builtin that is being run, which complaints name. -/
  builtin     : Option String := none
  bindings   : List (String × List Char) := []
  /-- The variables that programs are given. -/
  exported    : List String := []
  /-- The variables that cannot be changed any more. -/
  constants   : List String := []
  functions   : List (String × Command) := []
  streams     : List (Nat × Channel) := []
  buffers     : List (Nat × Bytes) := []
  /-- The status of the last command. -/
  status      : Nat := 0
  /-- The status of the last commands whose output stood in for a word of this command. -/
  substituted : Option Nat := none
  flow        : Flow := .on
  options     : List Char := []
  /-- Whether a failure is looked at, so that it does not end the script. -/
  guarded     : Bool := false
  /-- What to do at signals, and at the end under the number nought. -/
  traps       : List (Nat × List Char) := []
  /-- Signals that were sent: to which process, and which. -/
  pending     : List (Nat × Nat) := []
  /-- The loops and the functions that are being run. -/
  loops       : Nat := 0
  calls       : Nat := 0
  /-- The variables to be restored at the end of the function. -/
  locals      : List (String × Option (List Char)) := []
  /-- Whether this is a part of the script that runs on its own. -/
  inner       : Bool := false

namespace State

/-- The buffer that a script's output goes to. -/
def outputBuffer : Nat := 1

def diagnosticsBuffer : Nat := 2

/-- The streams of a script that has nothing to read. -/
def usualStreams : List (Nat × Channel) :=
  [(0, .nowhere), (1, .buffer outputBuffer), (2, .buffer diagnosticsBuffer)]

def buffer (st : State) (id : Nat) : Bytes := (Keyed.find? id st.buffers).getD []

def setBuffer (st : State) (id : Nat) (bs : Bytes) : State :=
  { st with buffers := Keyed.put id bs st.buffers }

/-- A buffer that no stream leads to. -/
def freshBuffer (st : State) : Nat := (st.buffers.map (·.1)).foldl max diagnosticsBuffer + 1

def isOn (st : State) : Bool := st.flow = .on

def finish (st : State) (status : Nat) : State := { st with status }

/-- Ends the script with a status. -/
def exit (st : State) (status : Nat) : State := { st with status, flow := .ended (.exited status) }

def write (st : State) (stream : Nat) (bytes : Bytes) : Except StreamError State :=
  if bytes.isEmpty then .ok st
  else
    match Keyed.find? stream st.streams with
    | some (.buffer id) => .ok (st.setBuffer id (st.buffer id ++ bytes))
    | some (.file l) =>
      match st.files.at? l with
      | some (.file content executable) => .ok { st with files := st.files.set l (.file (content ++ bytes) executable) }
      | _ => .ok st
    | some .nowhere => .ok st
    | some .full => .error .noRoom
    | some .directory => .error .isDirectory
    | none => .error .closed

/-- All that is left to read from a stream. -/
def readAll (st : State) (stream : Nat) : Except StreamError (Bytes × State) :=
  match Keyed.find? stream st.streams with
  | some (.buffer id) => .ok (st.buffer id, st.setBuffer id [])
  | some .directory => .error .isDirectory
  | some _ => .ok ([], st)
  | none => .error .closed

/-- Writes a line to the diagnostics, if there are any. -/
def warn (st : State) (message : String) : State :=
  (st.write 2 (bytesOf (message ++ "\n").toList)).toOption.getD st

/-- A complaint of the shell itself, with the script and the line before it. -/
def complain (st : State) (message : String) (status : Nat) : State :=
  let named := match st.builtin with
    | some name => name ++ ": " ++ message
    | none => message
  let place := (if st.talkative then ": line " else ": ") ++ toString st.line ++ ": "
  (st.warn (String.ofList st.script ++ place ++ named)).finish status

/-- A complaint that ends the script. -/
def fail (st : State) (message : String) : State := (st.complain message 2).exit 2

/-- The blank between parameters that are put into one. -/
def joined (separator : List Char) : List (List Char) → List Char
  | [] => []
  | [a] => a
  | a :: b :: rest => a ++ separator ++ joined separator (b :: rest)

/-- The characters that separate fields. -/
def separators (st : State) : List Char := (Keyed.find? "IFS" st.bindings).getD [' ', '\t', '\n']

/-- The value of a parameter; none if it is not set. -/
def value? (st : State) (name : String) : Option (List Char) :=
  match name with
  | "#" => some (toString st.arguments.length).toList
  | "?" => some (toString st.status).toList
  | "$" => some (toString st.process).toList
  | "!" => none
  | "0" => some st.script
  | "@" => some (joined [' '] st.arguments)
  | "*" => some (joined (st.separators.take 1) st.arguments)
  | "-" => some st.options
  | _ =>
    match name.toNat? with
    | some n => st.arguments[n - 1]?
    | none => Keyed.find? name st.bindings

/-- Sets a variable. A constant cannot be set, and trying to ends the script. -/
def assign (st : State) (name : String) (value : List Char) : State :=
  if st.constants.contains name then st.fail (name ++ ": is read only")
  else { st with bindings := Keyed.put name value st.bindings }

def markExported (st : State) (name : String) : State :=
  if st.exported.contains name then st else { st with exported := st.exported ++ [name] }

/-- Sends a signal. -/
def signal (st : State) (process n : Nat) : State := { st with pending := st.pending ++ [(process, n)] }

end State

end ModelForge.Shell
