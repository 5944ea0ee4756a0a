import ModelForge.Shell.Launch
import ModelForge.Shell.Parser
import ModelForge.Shell.Tool
/-!
Running scripts: words are expanded into fields, and commands change the state one after the
other until the script ends. The number of steps is bounded, so that every run ends.
-/

namespace ModelForge.Shell

/-- What a parameter's value becomes by a change that has nothing to do with its being set. -/
def Change.apply (change : Change) (pattern : List Mark) (value : List Char) : List Char :=
  match change with
  | .length => (toString value.length).toList
  | .cutFront longest => value.drop ((Glob.beginning? longest pattern value).getD 0)
  | .cutBack longest => value.take (value.length - (Glob.ending? longest pattern value).getD 0)
  | _ => value

namespace State

/-- The streams behind a command that had some of them turned around. -/
def restoreStreams (before after : State) (turned : List Nat) : State :=
  let streams := turned.foldl (fun streams n =>
    match Keyed.find? n before.streams with
    | some c => Keyed.put n c streams
    | none => Keyed.erase n streams) after.streams
  { after with streams }

/-- The state in which a part of a script runs on its own. Only traps that ignore a signal are kept. -/
def enterInner (st : State) : State :=
  { st with inner := true, loops := 0, traps := st.traps.filter (·.2.isEmpty) }

/-- The status that a run comes to. -/
def outcome (st : State) : Nat :=
  match st.flow with
  | .ended (.exited n) => n
  | .ended (.killed n) => 128 + n
  | _ => st.status

/-- What is left of a part of a script that has run on its own: files, what was written and the signals
that were sent. -/
def leaveInner (outer after : State) : State :=
  { outer with
    files := { after.files with home := outer.files.home }
    buffers := after.buffers
    pending := after.pending
    status := after.outcome }

/-- Ends the script at a failure, if it is to end there and nobody looks at the failure. -/
def checked (st : State) : State :=
  if st.options.contains 'e' && !st.guarded && st.status ≠ 0 && st.isOn then st.exit st.status else st

/-- Whether a loop has another turn, and the state without what its body had to say about that. -/
def turn (st : State) : Bool × State :=
  match st.flow with
  | .on => (true, st)
  | .leave again 1 => (again, { st with flow := .on })
  | .leave again n => (false, { st with flow := .leave again (n - 1) })
  | _ => (false, st)

/-- Whether a variable counts as not set, by the rule of a change. -/
def isMissing (value : Option (List Char)) (orEmpty : Bool) : Bool := value.isNone || (orEmpty && value = some [])

/-- Opens a file to be read from. -/
def channelToRead (st : State) (file : List Char) : Except FileError (Option Channel × State) :=
  match st.files.read (pathOf file) with
  | .ok content =>
    let id := st.freshBuffer
    .ok (some (.buffer id), st.setBuffer id content)
  | .error .isDirectory => .ok (some .directory, st)
  | .error e => .error e

/-- Opens a file to be written to, which is emptied or not. -/
def channelToWrite (st : State) (file : List Char) (append : Bool) : Except FileError (Option Channel × State) :=
  match st.files.resolve (pathOf file) with
  | .ok (.entry l (.file content executable)) =>
    if !st.files.allows .write l then .error .permissionDenied
    else .ok (some (.file l), { st with files := st.files.overwrite l (if append then content else []) executable })
  | .ok (.entry _ _) => .error .isDirectory
  | .ok (.free l) =>
    if !st.files.allowsChange l then .error .permissionDenied
    else .ok (some (.file l), { st with files := st.files.create l [] })
  | .error e => .error e

/-- The channel of a device; none if the path is not that of a device. -/
def device? (st : State) (file : List Char) : Option (Option Channel) :=
  match String.ofList file with
  | "/dev/null" => some (some .nowhere)
  | "/dev/full" => some (some .full)
  | "/dev/stdin" => some (Keyed.find? 0 st.streams)
  | "/dev/stdout" => some (Keyed.find? 1 st.streams)
  | "/dev/stderr" => some (Keyed.find? 2 st.streams)
  | _ =>
    if file.take 8 = "/dev/fd/".toList then
      (Builtin.natural? (file.drop 8)).map fun n => Keyed.find? n st.streams
    else none

/-- Opens a file. None is a channel that is not there. -/
def «open» (st : State) (d : Direction) (file : List Char) : Except FileError (Option Channel × State) :=
  match st.device? file with
  | some (some c) => .ok (some c, st)
  | some none => .error .notFound
  | none =>
    match d with
    | .read => st.channelToRead file
    | .both =>
      match st.channelToRead file with
      | .error .notFound => st.channelToWrite file true
      | opened => opened
    | .append => st.channelToWrite file true
    | .write =>
      if st.options.contains 'C' && st.files.isFile (pathOf file) then .error .alreadyThere
      else st.channelToWrite file false
    | _ => st.channelToWrite file false

/-- Why a file could not be opened, as scripts are told. -/
def openComplaint (d : Direction) (file : List Char) (e : FileError) : String :=
  let reads := d = .read
  let isMissing := e = .notFound || e = .notDirectory
  let reason := if !isMissing then e.reason else if reads then "No such file" else "Directory nonexistent"
  (if reads then "cannot open " else "cannot create ") ++ String.ofList file ++ ": " ++ reason

/-- Turns a stream around. -/
def turnStream (st : State) (n : Nat) (c : Channel) : State := { st with streams := Keyed.put n c st.streams }

/-- Turns a stream around by a redirection whose target is expanded; the flag tells whether it worked. -/
def redirected (st : State) (r : Redirection) (target : List Char) : Bool × State :=
  match r.direction with
  | .document =>
    let id := st.freshBuffer
    (true, (st.setBuffer id (bytesOf target)).turnStream r.stream (.buffer id))
  | .duplicate =>
    match target with
    | ['-'] => (true, { st with streams := Keyed.erase r.stream st.streams })
    | _ =>
      match Builtin.natural? target with
      | none => (false, st.fail "Bad fd number")
      | some n =>
        match Keyed.find? n st.streams with
        | some c => (true, st.turnStream r.stream c)
        | none => (false, st.complain (toString n ++ ": Bad file descriptor") 2)
  | d =>
    match st.open d target with
    | .ok (some c, st) => (true, st.turnStream r.stream c)
    | .ok (none, st) => (false, st.complain (openComplaint d target .notFound) 2)
    | .error e => (false, st.complain (openComplaint d target e) 2)

/-- What is said about a program that could not be started, and the status that comes of it. -/
def notStarted (st : State) (name : String) (e : FileError) : State :=
  match e with
  | .notFound => st.complain (name ++ notFound) 127
  | .notDirectory => st.complain (name ++ notFound) 127
  | e => st.complain (name ++ ": " ++ e.reason) 126
where
  notFound : String :=
    if !st.talkative then ": not found"
    else if name.toList.contains '/' then ": No such file or directory"
    else ": command not found"

/-- The words that have a meaning of their own at the beginning of a command. -/
def keywords : List String := ["!", "case", "do", "done", "elif", "else", "esac", "fi", "for", "if", "in", "then",
  "until", "while", "\x7b", "\x7d"]

/-- Where programs are looked for. -/
def search (st : State) : List Char := (Keyed.find? "PATH" st.bindings).getD []

/-- The path of a program; none if there is none. -/
def programPath? (st : State) (name : List Char) : Option (List Char) :=
  let places := if name.contains '/' then [name] else Invocation.places st.search name
  places.find? fun p =>
    (Installed.at? (pathOf p).text).isSome ||
      match st.files.entry (pathOf p) with
      | .ok (.file _ executable) => executable
      | _ => false

/-- Says what names stand for; in short, only by what they can be run. -/
def describe (short : Bool) (st : State) : List (List Char) → State
  | [] => st
  | word :: rest =>
    let name := String.ofList word
    let say (long : String) (what : String) : State :=
      describe short (Builtin.put st ((if short then what else name ++ " is " ++ long) ++ "\n").toList 0) rest
    if keywords.contains name then say "a shell keyword" name
    else if Builtin.isSpecial name then say "a special shell builtin" name
    else if st.functions.any (·.1 = name) then say "a shell function" name
    else if Builtin.isBuiltin name then say "a shell builtin" name
    else
      match st.programPath? word with
      | some path => say (String.ofList path) (String.ofList path)
      | none =>
        let st := if short then st.finish 127 else (Builtin.put st (name ++ ": not found\n").toList 127)
        describe short st rest

/-- The state in which another shell starts: it knows the variables that it is given, and the streams. -/
def child (st : State) (name : List Char) : State :=
  { files := st.files
    script := name
    arguments := []
    process := st.process + 1
    bindings := st.bindings.filter fun v => st.exported.contains v.1
    exported := st.exported
    streams := st.streams
    buffers := st.buffers }

end State

/-- What another shell is asked to run. -/
inductive Source
  | text (s : List Char)
  | file (path : List Char)
  | input

/-- The options of a shell that is started with some arguments: whether it runs an argument or its input,
and what is left of the arguments. A complaint is made about an option that it does not know. -/
def shellOptions (st : State) (command input : Bool) :
    List (List Char) → Except String (State × Bool × Bool × List (List Char))
  | [] => .ok (st, command, input, [])
  | ['-'] :: rest => .ok (st, command, input, rest)
  | ['-', '-'] :: rest => .ok (st, command, input, rest)
  | ['-', 'o'] :: name :: rest =>
    match Builtin.optionNames.find? fun o => o.2.toList = name with
    | some (c, _) => shellOptions (Builtin.setOption st true c) command input rest
    | none => .error ("Illegal option -o " ++ String.ofList name)
  | ('-' :: letters) :: rest =>
    match letters.find? fun c => c ≠ 'c' && !Builtin.optionNames.any (·.1 = c) with
    | some c => .error ("Illegal option -" ++ String.ofList [c])
    | none =>
      let st := (letters.filter fun c => c ≠ 'c' && c ≠ 's').foldl (fun st c => Builtin.setOption st true c) st
      shellOptions st (command || letters.contains 'c') (input || letters.contains 's') rest
  | args => .ok (st, command, input, args)

/-- A shell that is started with some arguments, and what it is to run. -/
def startedShell (st : State) (name : List Char) (args : List (List Char)) : Except String (State × Source) :=
  match shellOptions st false false args with
  | .error m => .error m
  | .ok (st, command, input, rest) =>
    if command then
      match rest with
      | [] => .error "-c requires an argument"
      | [s] => .ok ({ st with script := name }, .text s)
      | s :: script :: arguments => .ok ({ st with script, arguments }, .text s)
    else if input then .ok ({ st with script := name, arguments := rest }, .input)
    else
      match rest with
      | [] => .ok ({ st with script := name }, .input)
      | file :: arguments => .ok ({ st with script := file, arguments }, .file file)

mutual

/-- Expands one piece of a word. -/
def expandPiece (fuel : Nat) (st : State) (p : Piece) : List Atom × State :=
  match fuel with
  | 0 => ([], st)
  | fuel + 1 =>
    match p with
    | .text s quoted => ((if quoted then [.presence] else []) ++ s.map fun c => .mark ⟨c, quoted⟩, st)
    | .malformed => ([], st.fail "Bad substitution")
    | .output _ line source quoted =>
      let id := st.freshBuffer
      let inner := { (st.setBuffer id []).enterInner.turnStream 1 (.buffer id) with guarded := false }
      let after := st.leaveInner (runToEnd fuel { runText fuel inner line source with line := st.line })
      let bs := ((after.buffer id).reverse.dropWhile (· = 10)).reverse
      (Atom.ofValue st.separators quoted (lettersOf bs),
        { after with buffers := Keyed.erase id after.buffers, substituted := some after.status, status := st.status })
    | .arithmetic expression quoted =>
      let (atoms, st) := expandWord fuel st expression
      if !st.isOn then ([], st)
      else
        let (value, st) := Expression.evaluate st (Atom.text atoms)
        (Atom.ofValue st.separators quoted value, st)
    | .parameter name change word quoted =>
      let value := st.value? name
      let plain (s : List Char) : List Atom := Atom.ofValue st.separators quoted s
      let isList := name = "@" || name = "*"
      let usual : List Atom :=
        if isList && (name = "@" || !quoted) then Atom.ofTexts st.separators quoted st.arguments
        else (if quoted then [.presence] else []) ++ plain (value.getD [])
      let isUnset := value.isNone && st.options.contains 'u' && !isList
      match change with
      | .none => if isUnset then ([], st.fail (name ++ ": parameter not set")) else (usual, st)
      | .default orEmpty =>
        if State.isMissing value orEmpty then expandWord fuel st word else (usual, st)
      | .alternative orEmpty =>
        if State.isMissing value orEmpty then ([], st) else expandWord fuel st word
      | .assign orEmpty =>
        if State.isMissing value orEmpty then
          let (atoms, st) := expandWord fuel st word
          if !st.isOn then ([], st)
          else if Token.isName name.toList then
            let s := Atom.text atoms
            (plain s, st.assign name s)
          else ([], st.fail (name ++ ": bad variable name"))
        else (usual, st)
      | .demand orEmpty =>
        if State.isMissing value orEmpty then
          let (atoms, st) := expandWord fuel st word
          let reason := if !word.isEmpty then String.ofList (Atom.text atoms)
            else if orEmpty then "parameter not set or null" else "parameter not set"
          ([], if st.isOn then st.fail (name ++ ": " ++ reason) else st)
        else (usual, st)
      | .length =>
        if isUnset then ([], st.fail (name ++ ": parameter not set"))
        else
          (plain (if isList then (toString st.arguments.length).toList else change.apply [] (value.getD [])), st)
      | _ =>
        if isUnset then ([], st.fail (name ++ ": parameter not set"))
        else
          let (pattern, st) := expandWord fuel st word
          (plain (change.apply (Atom.whole pattern) (value.getD [])), st)

def expandWord (fuel : Nat) (st : State) (w : Word) : List Atom × State :=
  match fuel with
  | 0 => ([], st)
  | fuel + 1 =>
    match w with
    | [] => ([], st)
    | p :: rest =>
      let (a, st) := expandPiece fuel st p
      if !st.isOn then (a, st)
      else
        let (b, st) := expandWord fuel st rest
        (a ++ b, st)

/-- The fields of some words, with patterns replaced by the paths they match. -/
def expandWords (fuel : Nat) (st : State) (ws : List Word) : List (List Char) × State :=
  match fuel with
  | 0 => ([], st)
  | fuel + 1 =>
    match ws with
    | [] => ([], st)
    | w :: rest =>
      let (atoms, st) := expandWord fuel st w
      if !st.isOn then ([], st)
      else
        let fields := Atom.fields atoms
        let fields :=
          if st.options.contains 'f' then fields.map fun f => f.map (·.char)
          else fields.flatMap (Glob.paths st.files)
        let (more, st) := expandWords fuel st rest
        (fields ++ more, st)

/-- The values of some assignments. -/
def expandAssignments (fuel : Nat) (st : State) (as : List (String × Word)) : List (String × List Char) × State :=
  match fuel with
  | 0 => ([], st)
  | fuel + 1 =>
    match as with
    | [] => ([], st)
    | (name, w) :: rest =>
      let (atoms, st) := expandWord fuel st w
      if !st.isOn then ([], st)
      else
        let value := Atom.text atoms
        -- A later value can refer to an earlier one.
        let (more, after) := expandAssignments fuel { st with bindings := Keyed.put name value st.bindings } rest
        ((name, value) :: more, { after with bindings := st.bindings })

/-- Turns streams around for a command. The flag tells whether all of it worked. -/
def redirect (fuel : Nat) (st : State) (rs : List Redirection) : Bool × State :=
  match fuel with
  | 0 => (false, st)
  | fuel + 1 =>
    match rs with
    | [] => (true, st)
    | r :: rest =>
      let (atoms, st) := expandWord fuel st r.target
      if !st.isOn then (false, st)
      else
        match st.redirected r (Atom.text atoms) with
        | (true, st) => redirect fuel st rest
        | failed => failed

/-- Runs a command with its streams turned around, which is undone behind it. -/
def runRedirected (fuel : Nat) (st : State) (line : Nat) (rs : List Redirection) (c : Command) : State :=
  match fuel with
  | 0 => st
  | fuel + 1 =>
    let turned := rs.map (·.stream)
    match redirect fuel { st with line } rs with
    | (false, failed) => (st.restoreStreams failed turned).checked
    | (true, opened) => st.restoreStreams (run fuel opened c) turned

/-- Runs a function with its arguments. -/
def runFunction (fuel : Nat) (st : State) (body : Command) (args : List (List Char)) : State :=
  match fuel with
  | 0 => st
  | fuel + 1 =>
    let after := run fuel { st with arguments := args, calls := st.calls + 1, loops := 0, locals := [] } body
    let bindings := after.locals.foldl (fun vs (name, old) =>
      match old with
      | some value => Keyed.put name value vs
      | none => Keyed.erase name vs) after.bindings
    { after with
      arguments := st.arguments, calls := st.calls, loops := st.loops, locals := st.locals, bindings
      flow := if after.flow = .returned then .on else after.flow }

/-- Runs the lines of a text as part of the script. -/
def runPart (fuel : Nat) (st : State) (name : String) (source : List Char) : State :=
  match fuel with
  | 0 => st
  | fuel + 1 =>
    let after := runText fuel { st with builtin := some name } 1 source
    { after with builtin := st.builtin, line := st.line }

/-- Runs another shell. What it leaves are files, what was written, and a status. -/
def runShell (fuel : Nat) (st : State) (program : String) (name : List Char) (args : List (List Char)) : State :=
  match fuel with
  | 0 => st
  | fuel + 1 =>
    let child := { st.child name with talkative := Installed.isTalkative program }
    let after := match startedShell child name args with
      | .error m => (child.warn (String.ofList name ++ ": 0: " ++ m)).exit 2
      | .ok (child, .text s) => runToEnd fuel (runText fuel child 1 s)
      | .ok (child, .input) =>
        match child.readAll 0 with
        | .ok (bs, child) => runToEnd fuel (runText fuel child 1 (lettersOf bs))
        | .error _ => child
      | .ok (child, .file path) =>
        match child.files.read (pathOf path) with
        | .ok bs => runToEnd fuel (runText fuel child 1 (lettersOf bs))
        | .error _ => (child.warn (String.ofList name ++ ": 0: cannot open " ++ String.ofList path ++ ": No such file")).exit 2
    let st := { st.leaveInner after with pending := st.pending ++ after.pending.filter (·.1 = st.process) }
    match after.flow with
    | .ended (.killed n) =>
      match Signal.obituary? n with
      | some s => (st.warn s).finish (128 + n)
      | none => st.finish (128 + n)
    | _ => st

/-- Runs a program that has been found. -/
def runProgram (fuel : Nat) (st : State) (i : Invocation) : State :=
  match fuel with
  | 0 => st
  | fuel + 1 =>
    if Installed.isShell i.program then runShell fuel st i.program i.name i.arguments
    else if i.program = "env" then runInEnvironment fuel st (String.ofList i.name) i.arguments
    else { Tool.run i.program (String.ofList i.name) st i.arguments with builtin := st.builtin }

/-- Runs a program with more variables that it is given; without a program, says which ones there are. -/
def runInEnvironment (fuel : Nat) (st : State) (name : String) (args : List (List Char)) : State :=
  match fuel with
  | 0 => st
  | fuel + 1 =>
    match args with
    | [] =>
      let given := st.exported.filterMap fun n => (Keyed.find? n st.bindings).map fun v => n.toList ++ '=' :: v
      (Tool.put name st (Tool.ended given)).finish 0
    | ['-', '-'] :: rest => runInEnvironment fuel st name rest
    | ['-', 'i'] :: rest => { runInEnvironment fuel { st with exported := [] } name rest with exported := st.exported }
    | ('-' :: c :: more) :: _ =>
      if c = '-' then Tool.misusedWith 125 name st ("unrecognized option '--" ++ String.ofList more ++ "'")
      else Tool.misusedWith 125 name st ("invalid option -- '" ++ String.ofList [c] ++ "'")
    | arg :: rest =>
      match Builtin.assignmentOf arg with
      | (key, some value) =>
        let given := ({ st with bindings := Keyed.put key value st.bindings }).markExported key
        { runInEnvironment fuel given name rest with bindings := st.bindings, exported := st.exported }
      | (_, none) =>
        match Invocation.find st.files st.search arg rest with
        | .ok i => runProgram fuel st i
        | .error e =>
          Tool.blameWith (if e = .notFound then 127 else 126) name st (Tool.spell arg ++ ": " ++ e.reason)

/-- Starts a program by its name. A file that is no program is taken for a script. -/
def start (fuel : Nat) (st : State) (name : List Char) (args : List (List Char)) : State :=
  match fuel with
  | 0 => st
  | fuel + 1 =>
    if name.isEmpty then st.complain ": Permission denied" 127
    else
      match Invocation.find st.files st.search name args with
      | .ok i => runProgram fuel st i
      | .error .wrongFormat => runShell fuel st "sh" "sh".toList ((st.programPath? name).getD name :: args)
      | .error e => st.notStarted (String.ofList name) e

/-- Runs a builtin that runs other commands in its turn. -/
def runMeta (fuel : Nat) (st : State) (name : String) (args : List (List Char)) : Option State :=
  match fuel with
  | 0 => none
  | fuel + 1 =>
    match name with
    | "eval" => some (runPart fuel (st.finish 0) "eval" (State.joined [' '] args))
    | "." =>
      match args with
      | [] => some (st.finish 0)
      | file :: _ =>
        let opened := match st.device? file with
          | some _ => (st.readAll 0).toOption
          | none => (st.files.read (pathOf file)).toOption.map (·, st)
        match opened with
        | some (bs, st) =>
          let after := runPart fuel (st.finish 0) (String.ofList file) (lettersOf bs)
          some { after with flow := if after.flow = .returned then .on else after.flow }
        | none => some ({ st with builtin := some "." }.fail ("cannot open " ++ String.ofList file ++ ": No such file"))
    | "exec" =>
      match args with
      | [] => some (st.finish 0)
      | program :: args =>
        match Invocation.find st.files st.search program args with
        | .ok i =>
          let after := runProgram fuel { st with traps := [] } i
          some (after.exit after.status)
        | .error e =>
          let after := { st with builtin := some "exec" }.notStarted (String.ofList program) e
          some ({ after with builtin := st.builtin }.exit after.status)
    | "command" =>
      match args with
      | [] => some (st.finish 0)
      | ['-', 'v'] :: names => some ((st.finish 0).describe true (names.take 1))
      | ['-', 'V'] :: names => some ((st.finish 0).describe false names)
      | word :: rest =>
        let name := String.ofList word
        match runMeta fuel st name rest with
        | some after => some after
        | none => some (runPlain fuel st word rest)
    | "type" => some ((st.finish 0).describe false args)
    | _ => none

/-- Runs a builtin or a program. -/
def runPlain (fuel : Nat) (st : State) (name : List Char) (args : List (List Char)) : State :=
  match fuel with
  | 0 => st
  | fuel + 1 =>
    match Builtin.find? (String.ofList name) with
    | some f => { f { st with builtin := some (String.ofList name) } args with builtin := st.builtin }
    | none => start fuel st name args

/-- Runs the command that fields are: a builtin, a function or a program. -/
def runFields (fuel : Nat) (st : State) (name : List Char) (args : List (List Char)) : State :=
  match fuel with
  | 0 => st
  | fuel + 1 =>
    match runMeta fuel st (String.ofList name) args with
    | some after => after
    | none =>
      match Keyed.find? (String.ofList name) st.functions with
      | some body =>
        if Builtin.isSpecial (String.ofList name) then runPlain fuel st name args else runFunction fuel st body args
      | none => runPlain fuel st name args

/-- Runs a simple command. Assignments before a program or a function hold only while it runs. -/
def runSimple (fuel : Nat) (st : State) (assignments : List (String × Word)) (words : List Word)
    (redirections : List Redirection) : State :=
  match fuel with
  | 0 => st
  | fuel + 1 =>
    let (fields, st) := expandWords fuel { st with substituted := none } words
    if !st.isOn then st
    else
      let (values, st) := expandAssignments fuel st assignments
      let st := deliver fuel st
      if !st.isOn then st
      else
        let st :=
          if st.options.contains 'x' then
            st.warn (String.ofList ('+' :: ' ' :: State.joined [' '] (values.map (fun v => v.1.toList ++ '=' :: v.2) ++ fields)))
          else st
        let turned := redirections.map (·.stream)
        let assigned (st : State) : State :=
          values.foldl (fun st v => if st.isOn then st.assign v.1 v.2 else st) st
        match redirect fuel st redirections, fields with
        | (false, failed), fields =>
          let failed := st.restoreStreams failed turned
          let isSpecial := (fields.head?.map String.ofList).any Builtin.isSpecial
          if isSpecial && failed.isOn then failed.exit failed.status else failed
        | (true, opened), [] => st.restoreStreams (assigned (opened.finish (opened.substituted.getD 0))) turned
        | (true, opened), name :: args =>
          let word := String.ofList name
          if Builtin.isSpecial word then
            let ready := assigned opened
            let after := if ready.isOn then runFields fuel ready name args else ready
            if word = "exec" && args.isEmpty then after else st.restoreStreams after turned
          else
            let ready := assigned opened
            let ready := values.foldl (fun st v => st.markExported v.1) ready
            let after := if ready.isOn then runFields fuel ready name args else ready
            let after := st.restoreStreams after turned
            if values.isEmpty then after
            else
              let bindings := values.foldl (fun vs v =>
                match Keyed.find? v.1 st.bindings with
                | some old => Keyed.put v.1 old vs
                | none => Keyed.erase v.1 vs) after.bindings
              let given := values.map (·.1)
              { after with
                bindings
                exported := after.exported.filter fun n => !given.contains n || st.exported.contains n }

/-- Runs a loop over fields. -/
def runEach (fuel : Nat) (st : State) (name : String) (fields : List (List Char)) (body : Command) : State :=
  match fuel with
  | 0 => st
  | fuel + 1 =>
    match fields with
    | [] => st
    | f :: rest =>
      let st := st.assign name f
      if !st.isOn then st
      else
        match (run fuel st body).turn with
        | (true, after) => runEach fuel after name rest body
        | (false, after) => after

/-- Runs a loop with a condition. The status is that of the last turn. -/
def runWhile (fuel : Nat) (st : State) (negated : Bool) (condition body : Command) (status : Nat) : State :=
  match fuel with
  | 0 => st
  | fuel + 1 =>
    match (run fuel { st with guarded := true } condition).turn with
    | (false, tested) => { tested with guarded := st.guarded }
    | (true, tested) =>
      let tested := { tested with guarded := st.guarded }
      if (tested.status = 0) != negated then
        match (run fuel tested body).turn with
        | (true, after) => runWhile fuel after negated condition body after.status
        | (false, after) => after
      else tested.finish status

/-- Runs the first branch that has a pattern for the subject. -/
def runBranches (fuel : Nat) (st : State) (subject : List Char) (branches : List (List Word × Command)) : State :=
  match fuel with
  | 0 => st
  | fuel + 1 =>
    match branches with
    | [] => st.finish 0
    | ([], _) :: rest => runBranches fuel st subject rest
    | (w :: ws, body) :: rest =>
      let (atoms, st) := expandWord fuel st w
      if !st.isOn then st
      else if Glob.admits (Atom.whole atoms) subject then run fuel (st.finish 0) body
      else runBranches fuel st subject ((ws, body) :: rest)

/-- Does what the traps say about the signals that have been sent. Signals without a trap end the script,
unless they are of no account. -/
def deliver (fuel : Nat) (st : State) : State :=
  match fuel with
  | 0 => st
  | fuel + 1 =>
    match if st.isOn && !st.inner then st.pending else [] with
    | [] => st
    | (process, n) :: rest =>
      let st := { st with pending := rest }
      if process ≠ st.process then deliver fuel st
      else
        match if n = 9 then none else Keyed.find? n st.traps with
        | some [] => deliver fuel st
        | some action =>
          let after := runText fuel { st with builtin := none } 1 action
          let after := { after with builtin := st.builtin, line := st.line }
          deliver fuel (if after.isOn then after.finish st.status else after)
        | none =>
          if Signal.isIgnored n then deliver fuel st else { st with flow := .ended (.killed n) }

/-- Runs a part of a script on its own. -/
def runInner (fuel : Nat) (st : State) (c : Command) : State :=
  match fuel with
  | 0 => st
  | fuel + 1 => runToEnd fuel (run fuel st.enterInner c)

def run (fuel : Nat) (st : State) (c : Command) : State :=
  match fuel with
  | 0 => st
  | fuel + 1 =>
    if !st.isOn || st.options.contains 'n' then st
    else
      match c with
      | .nothing => st
      | .simple line assignments words redirections =>
        (deliver fuel (runSimple fuel { st with line } assignments words redirections)).checked
      | .sequence a b => run fuel (run fuel st a) b
      | .background a => (st.leaveInner (runInner fuel st a)).finish 0
      | .both a b =>
        let left := { run fuel { st with guarded := true } a with guarded := st.guarded }
        if left.isOn && left.status = 0 then run fuel left b else left
      | .either a b =>
        let left := { run fuel { st with guarded := true } a with guarded := st.guarded }
        if left.isOn && left.status ≠ 0 then run fuel left b else left
      | .negated a =>
        let after := { run fuel { st with guarded := true } a with guarded := st.guarded }
        if after.isOn then after.finish (if after.status = 0 then 1 else 0) else after
      | .pipe a b =>
        let id := st.freshBuffer
        let left := st.leaveInner (runInner fuel ((st.setBuffer id []).turnStream 1 (.buffer id)) a)
        let right := st.leaveInner (runInner fuel (left.turnStream 0 (.buffer id)) b)
        (deliver fuel { right with buffers := Keyed.erase id right.buffers }).checked
      | .loop negated condition body =>
        { runWhile fuel { st with loops := st.loops + 1 } negated condition body 0 with loops := st.loops }
      | .each line name words body =>
        let (fields, st) := match words with
          | some ws => expandWords fuel { st with line } ws
          | none => (st.arguments, st)
        if !st.isOn then st
        else { runEach fuel { st with status := 0, loops := st.loops + 1 } name fields body with loops := st.loops }
      | .choice condition consequent alternative =>
        let tested := { run fuel { st with guarded := true } condition with guarded := st.guarded }
        if !tested.isOn then tested
        else if tested.status = 0 then run fuel tested consequent
        else
          match alternative with
          | .nothing => tested.finish 0
          | _ => run fuel tested alternative
      | .select line subject branches =>
        let (atoms, st) := expandWord fuel { st with line } subject
        if !st.isOn then st else runBranches fuel st (Atom.text atoms) branches
      | .group line body rs => runRedirected fuel st line rs body
      | .inner line body rs =>
        let opened := { st with line }.enterInner
        let after := runToEnd fuel (runRedirected fuel opened line rs body)
        (deliver fuel (st.leaveInner after)).checked
      | .define name body => { st with functions := Keyed.put name body st.functions }.finish 0

def runLines (fuel : Nat) (st : State) (cs : List Command) (mistake : Option SyntaxError) : State :=
  match fuel with
  | 0 => st
  | fuel + 1 =>
    match cs, mistake with
    | c :: rest, _ =>
      let st := run fuel st c
      if st.isOn then runLines fuel st rest mistake else st
    | [], some e => { st with line := e.line }.fail ("Syntax error: " ++ e.fault.message)
    | [], none => st

/-- Runs the text of a script that begins on the line `first`. What is wrong with its form is noticed when
the lines before have been run. -/
def runText (fuel : Nat) (st : State) (first : Nat) (source : List Char) : State :=
  match fuel with
  | 0 => st
  | fuel + 1 =>
    let (cs, mistake) := Command.ofText first source
    runLines fuel st cs mistake

/-- Does what is to be done at the end of a script, unless a signal has ended it. -/
def runToEnd (fuel : Nat) (st : State) : State :=
  match fuel with
  | 0 => st
  | fuel + 1 =>
    match Keyed.find? 0 st.traps, st.flow with
    | some _, .ended (.killed _) => st
    | some action, _ =>
      let before := { st with status := st.outcome, flow := .on, traps := Keyed.erase 0 st.traps, builtin := none }
      let after := runText fuel before 1 action
      if after.isOn then after.exit before.status else after
    | none, _ => st

end

/-- The steps that one run may take. -/
def stepLimit : Nat := 100000

/-- The variables of a script that nobody has set any for. -/
def usualBindings : List (String × List Char) :=
  [("PATH", "/usr/local/sbin:/usr/local/bin:/usr/sbin:/usr/bin:/sbin:/bin".toList)]

/-- Runs an installed program on its own, and says how it ended. -/
def Invocation.run (i : Invocation) (files : FileSystem) : State × ExitStatus :=
  let st : State :=
    { files, script := i.name, arguments := [], streams := State.usualStreams, bindings := usualBindings
      exported := usualBindings.map (·.1), talkative := Installed.isTalkative i.program }
  if Installed.isShell i.program then
    match startedShell st i.name i.arguments with
    | .error m => ((st.warn (String.ofList i.name ++ ": 0: " ++ m)), .exited 2)
    | .ok (st, .text s) => ended (runToEnd stepLimit (runText stepLimit st 1 s))
    | .ok (st, .input) => (st, .exited 0)
    | .ok (st, .file path) =>
      match st.files.read (pathOf path) with
      | .ok bs => ended (runToEnd stepLimit (runText stepLimit st 1 (lettersOf bs)))
      | .error _ =>
        (st.warn (String.ofList i.name ++ ": 0: cannot open " ++ String.ofList path ++ ": No such file"), .exited 2)
  else ended (runProgram stepLimit st i)
where
  ended (st : State) : State × ExitStatus :=
    match st.flow with
    | .ended e => (st, e)
    | _ => (st, .exited st.status)

end ModelForge.Shell
