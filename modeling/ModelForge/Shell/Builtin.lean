import ModelForge.Shell.Field
import ModelForge.Shell.Format
import ModelForge.Shell.Test
import ModelForge.Shell.Token
/-!
The commands that a shell runs by itself: they write, test, move parameters, set variables and
options, send signals, and leave functions, loops and the script. Each takes its arguments and
changes the state.
-/

namespace ModelForge.Shell.Builtin

/-- Writes to the output. -/
def put (st : State) (s : List Char) (status : Nat) : State :=
  match st.write 1 (bytesOf s) with
  | .ok st => st.finish status
  | .error _ => st.complain (st.builtin.getD "" ++ ": I/O error") 1

def putLines (st : State) (ls : List (List Char)) : State := put st (ls.flatMap (· ++ ['\n'])) 0

/-- The letters of the options at the beginning of some arguments, and what follows them. -/
def echoOptions (known : List Char) : List (List Char) → List Char × List (List Char)
  | ('-' :: c :: more) :: rest =>
    if (c :: more).all known.contains then
      let (others, rest) := echoOptions known rest
      (c :: more ++ others, rest)
    else ([], ('-' :: c :: more) :: rest)
  | args => ([], args)

def echo (st : State) (args : List (List Char)) : State :=
  let (options, args) :=
    if st.talkative then echoOptions ['n', 'e', 'E'] args
    else if args.head? = some ['-', 'n'] then (['n'], args.drop 1)
    else ([], args)
  let text := State.joined [' '] args
  let (s, stopped) :=
    if st.talkative && !options.contains 'e' then (text, false) else Format.unescape (text.length + 1) text
  put st (s ++ if options.contains 'n' || stopped then [] else ['\n']) 0

def printf (st : State) (args : List (List Char)) : State :=
  match args with
  | [] => st.complain "usage: printf format [arg ...]" 2
  | ['-', '-'] :: [] => st.complain "usage: printf format [arg ...]" 2
  | ['-', '-'] :: format :: rest => run format rest
  | ('-' :: c :: _) :: _ => st.complain ("Illegal option -" ++ String.ofList [c]) 2
  | format :: rest => run format rest
where
  run (format : List Char) (rest : List (List Char)) : State :=
    let p := Format.all format (rest.length + 1) { arguments := rest }
    let st := p.wrong.foldl (fun st m => st.complain m 1) (st.finish 0)
    let st := put st p.written (if p.wrong.isEmpty then 0 else 1)
    match p.flaw with
    | some m => st.complain m 2
    | none => st

def condition (st : State) (args : List (List Char)) : State :=
  match Test.holds st args with
  | .ok r => st.finish (if r then 0 else 1)
  | .error m => st.complain m 2

/-- A condition whose last word has to be a bracket. -/
def bracket (st : State) (args : List (List Char)) : State :=
  if args.getLast? = some [']'] then condition st args.dropLast else st.complain "missing ]" 2

/-- A number without a sign. -/
def natural? (s : List Char) : Option Nat :=
  if s.isEmpty || !s.all Char.isDigit then none else (String.ofList s).toNat?

/-- Goes on with the number that the first argument is, or with another one if there is none. -/
def withNumber (st : State) (args : List (List Char)) (usual : Nat) (go : Nat → State) : State :=
  match args with
  | [] => go usual
  | a :: _ =>
    match natural? a with
    | some n => go n
    | none => st.fail ("Illegal number: " ++ String.ofList a)

def shift (st : State) (args : List (List Char)) : State :=
  withNumber st args 1 fun n =>
    if n ≤ st.arguments.length then { st with arguments := st.arguments.drop n }.finish 0
    else st.fail "can't shift that many"

def exit (st : State) (args : List (List Char)) : State :=
  withNumber st args st.status fun n => st.exit (n % 256)

def giveBack (st : State) (args : List (List Char)) : State :=
  withNumber st args st.status fun n => { st with status := n, flow := .returned }

/-- Leaves loops, or goes on with the next turn of one. -/
def leave (again : Bool) (st : State) (args : List (List Char)) : State :=
  withNumber st args 1 fun n =>
    if n = 0 then st.fail "Illegal number: 0"
    else if st.loops = 0 then st.finish 0
    else { st with status := 0, flow := .leave again (min n st.loops) }

/-- A value in quotes, as a shell could read it again. -/
def quoted (s : List Char) : List Char :=
  '\'' :: s.flatMap (fun c => if c = '\'' then "'\"'\"'".toList else [c]) ++ ['\'']

/-- The options by their letters and their names. -/
def optionNames : List (Char × String) := [('e', "errexit"), ('f', "noglob"), ('I', "ignoreeof"), ('i', "interactive"),
  ('m', "monitor"), ('n', "noexec"), ('s', "stdin"), ('x', "xtrace"), ('v', "verbose"), ('V', "vi"), ('E', "emacs"),
  ('C', "noclobber"), ('a', "allexport"), ('b', "notify"), ('u', "nounset")]

def setOption (st : State) (on : Bool) (c : Char) : State :=
  let others := st.options.filter (· ≠ c)
  { st with options := if on then others ++ [c] else others }

/-- Turns options on or off by their letters. -/
def setOptions (st : State) (on : Bool) : List Char → State
  | [] => st
  | c :: rest =>
    if optionNames.any (·.1 = c) then setOptions (setOption st on c) on rest
    else st.fail ("Illegal option -" ++ String.ofList [c])

/-- Options, and behind them new arguments. The letter `o` stands for an option whose name comes next. -/
def setAll (st : State) : List (List Char) → State
  | [] => st
  | ['-', '-'] :: rest => { st with arguments := rest }
  | ['-'] :: rest => if rest.isEmpty then st else { st with arguments := rest }
  | (sign :: letters) :: rest =>
    if sign = '-' || sign = '+' then
      let on := sign = '-'
      let st := setOptions st on (letters.filter (· ≠ 'o'))
      if !st.isOn then st
      else if letters.contains 'o' then
        match rest with
        | [] => st
        | name :: rest =>
          match optionNames.find? fun o => o.2.toList = name with
          | some (c, _) => setAll (setOption st on c) rest
          | none => st.fail ("Illegal option -o " ++ String.ofList name)
      else setAll st rest
    else { st with arguments := (sign :: letters) :: rest }
  | args => { st with arguments := args }

def sortedBindings (st : State) : List (String × List Char) := st.bindings.mergeSort fun a b => decide (a.1 ≤ b.1)

def set (st : State) (args : List (List Char)) : State :=
  if args.isEmpty then
    putLines st ((sortedBindings st).map fun (name, value) => name.toList ++ '=' :: quoted value)
  else setAll (st.finish 0) args

/-- An argument that names a variable, perhaps with a value behind a sign of equality. -/
def assignmentOf (arg : List Char) : String × Option (List Char) :=
  let name := arg.takeWhile (· ≠ '=')
  (String.ofList name, if name.length < arg.length then some (arg.drop (name.length + 1)) else none)

/-- Does something for each of the variables that arguments name, and sets those that have values. -/
def declare (mark : State → String → State) (st : State) : List (List Char) → State
  | [] => st
  | arg :: rest =>
    let (name, value) := assignmentOf arg
    if !Token.isName name.toList then st.fail (String.ofList arg ++ ": bad variable name")
    else
      let st := match value with
        | some v => st.assign name v
        | none => st
      if st.isOn then declare mark (mark st name) rest else st

/-- The lines that name some variables again. -/
def listing (st : State) (command : String) (names : List String) : State :=
  let sorted := names.mergeSort fun a b => decide (a ≤ b)
  putLines st (sorted.map fun name =>
    (command ++ " " ++ name).toList ++
      match Keyed.find? name st.bindings with
      | some value => '=' :: quoted value
      | none => [])

def «export» (st : State) (args : List (List Char)) : State :=
  match args with
  | [] => listing st "export" st.exported
  | ['-', 'p'] :: _ => listing st "export" st.exported
  | _ => declare State.markExported (st.finish 0) args

def readonly (st : State) (args : List (List Char)) : State :=
  match args with
  | [] => listing st "readonly" st.constants
  | ['-', 'p'] :: _ => listing st "readonly" st.constants
  | _ => declare (fun st name => { st with constants := name :: st.constants.filter (· ≠ name) }) (st.finish 0) args

/-- Variables that get their old values back at the end of the function. -/
def «local» (st : State) (args : List (List Char)) : State :=
  if st.calls = 0 then st.fail "not in a function"
  else
    let remembered := args.map fun a => (assignmentOf a).1
    let st := remembered.foldl (fun st name =>
      if st.locals.any (·.1 = name) then st
      else { st with locals := st.locals ++ [(name, Keyed.find? name st.bindings)] }) st
    declare (fun st _ => st) (st.finish 0) args

def unset (st : State) : List (List Char) → State
  | ['-', 'f'] :: names =>
    { st with functions := st.functions.filter fun f => !(names.map String.ofList).contains f.1 }.finish 0
  | ['-', 'v'] :: names => bindings (st.finish 0) names
  | names => bindings (st.finish 0) names
where
  bindings (st : State) : List (List Char) → State
    | [] => st
    | arg :: rest =>
      let name := String.ofList arg
      if !Token.isName arg then st.fail (name ++ ": bad variable name")
      else if st.constants.contains name then st.fail (name ++ ": is read only")
      else bindings { st with bindings := Keyed.erase name st.bindings, exported := st.exported.filter (· ≠ name) } rest

/-- A line to be read: its characters with a mark on those that a backslash protects, what follows it,
and whether its end is there. -/
def lineOf (raw : Bool) : List Char → List Mark × List Char × Bool
  | [] => ([], [], false)
  | '\\' :: c :: rest =>
    if raw then
      let (s, behind, ended) := lineOf raw (c :: rest)
      (⟨'\\', false⟩ :: s, behind, ended)
    else
      let (s, behind, ended) := lineOf raw rest
      (if c = '\n' then s else ⟨c, true⟩ :: s, behind, ended)
  | c :: rest =>
    if c = '\n' then ([], rest, true)
    else
      let (s, behind, ended) := lineOf raw rest
      (⟨c, false⟩ :: s, behind, ended)

/-- The values of so many variables from a line; the last one takes what is left. -/
def divided (separators : List Char) : Nat → List Mark → List (List Char)
  | 0, _ => []
  | n + 1, marks =>
    let isSeparator (m : Mark) : Bool := !m.quoted && separators.contains m.char
    let isBlank (m : Mark) : Bool := isSeparator m && (m.char = ' ' || m.char = '\t')
    let marks := marks.dropWhile isBlank
    if n = 0 then [((marks.reverse.dropWhile isBlank).reverse).map (·.char)]
    else
      let first := marks.takeWhile (!isSeparator ·)
      let rest := (marks.drop first.length).dropWhile isBlank
      let rest := match rest with
        | m :: others => if isSeparator m && !(marks.drop first.length).isEmpty then others else rest
        | [] => []
      first.map (·.char) :: divided separators n rest

def read (st : State) (args : List (List Char)) : State :=
  let raw := args.contains ['-', 'r']
  let names := args.filter (· ≠ ['-', 'r'])
  if names.isEmpty then st.complain "arg count" 2
  else
    match names.find? (!Token.isName ·) with
    | some n => st.complain (String.ofList n ++ ": bad variable name") 2
    | none =>
      match st.readAll 0 with
      | .error _ => st.finish 1
      | .ok (bytes, st) =>
        let (marks, behind, ended) := lineOf raw (lettersOf bytes)
        let st := match Keyed.find? 0 st.streams with
          | some (.buffer id) => st.setBuffer id (bytesOf behind)
          | _ => st
        let values := divided st.separators names.length marks
        let st := (names.zip values).foldl (fun st e => st.assign (String.ofList e.1) e.2) st
        if st.isOn then st.finish (if ended then 0 else 1) else st

def workingDirectory (st : State) : List Char := '/' :: letters ("/".intercalate st.files.home)

def pwd (st : State) (_ : List (List Char)) : State := putLines st [workingDirectory st]

def cd (st : State) (args : List (List Char)) : State :=
  match args.filter fun a => a ≠ ['-', 'L'] && a ≠ ['-', 'P'] && a ≠ ['-', '-'] with
  | [] =>
    match Keyed.find? "HOME" st.bindings with
    | some home => go (st.finish 0) home
    | none => st.finish 0
  | ['-'] :: _ =>
    match Keyed.find? "OLDPWD" st.bindings with
    | some old =>
      let st := go st old
      if st.status = 0 then putLines st [workingDirectory st] else st
    | none => putLines st [workingDirectory st]
  | target :: _ => go st target
where
  go (st : State) (target : List Char) : State :=
    match st.files.resolve (pathOf target) with
    | .ok (.entry l .directory) =>
      let before := workingDirectory st
      let st := { st with files := { st.files with home := l } }.finish 0
      (st.assign "OLDPWD" before).assign "PWD" (workingDirectory st)
    | _ => st.complain ("can't cd to " ++ String.ofList target) 2

/-- The name of a signal as scripts know it; the number stands for one without a name. -/
def signalName (n : Nat) : String :=
  if n = 34 then "RTMIN"
  else if n = 64 then "RTMAX"
  else if 34 < n && n < 50 then "RTMIN+" ++ toString (n - 34)
  else if 50 ≤ n && n < 64 then "RTMAX-" ++ toString (64 - n)
  else if n = 16 then "16"
  else (Signal.name? n).getD (toString n)

/-- The signal of a name or a number. -/
def signal? (s : List Char) : Option Nat :=
  match natural? s with
  | some n => if n ≤ 64 then some n else none
  | none => (List.range 65).find? fun n => n ≠ 0 && (signalName n).toList = s.map Char.toUpper

/-- Sends a signal to processes. Only the script itself can be reached. -/
def send (n : Nat) (st : State) : List (List Char) → State
  | [] => st
  | target :: rest =>
    let digits := if target.head? = some '-' then target.drop 1 else target
    match natural? digits with
    | none => st.complain ("Illegal number: " ++ String.ofList digits) 2
    | some p =>
      if p = st.process && digits = target then send n (if n = 0 then st else st.signal p n) rest
      else send n (st.complain "No such process\n" 1) rest

def kill (st : State) (args : List (List Char)) : State :=
  match args with
  | ['-', 'l'] :: [] => putLines st (['0'] :: (List.range 64).map fun n => (signalName (n + 1)).toList)
  | ['-', 'l'] :: s :: _ => named (st.finish 0) s
  | ['-', 's'] :: name :: targets =>
    match if natural? name = some 0 then some 0 else signal? name with
    | some n => toTargets n targets
    | none => st.complain ("invalid signal number or name: " ++ String.ofList name) 2
  | ['-', '-'] :: targets => toTargets 15 targets
  | ('-' :: name) :: targets =>
    match signal? name with
    | some n => toTargets n targets
    | none => st.complain ("Illegal option -" ++ String.ofList (name.take 1)) 2
  | _ => toTargets 15 args
where
  toTargets (n : Nat) (targets : List (List Char)) : State :=
    if targets.isEmpty then
      st.complain "Usage: kill [-s sigspec | -signum | -sigspec] [pid | job]... or\nkill -l [exitstatus]" 2
    else send n (st.finish 0) targets
  named (st : State) (s : List Char) : State :=
    match natural? s with
    | none => st.complain ("Illegal number: " ++ String.ofList s) 2
    | some n =>
      let n := if n > 128 then n - 128 else n
      if n ≤ 64 then putLines st [(signalName n).toList]
      else st.complain ("invalid signal number or exit status: " ++ String.ofList s) 2

/-- The number of a trap; the end of the script has the number nought. -/
def trapNumber? (s : List Char) : Option Nat :=
  if s.map Char.toUpper = "EXIT".toList then some 0 else signal? s

/-- Sets or takes away what is done at some signals. -/
def setTraps (action : Option (List Char)) (st : State) : List (List Char) → State
  | [] => st
  | s :: rest =>
    match trapNumber? s with
    | none => (st.warn ("trap: " ++ String.ofList s ++ ": bad trap")).finish 1
    | some n =>
      let traps := match action with
        | some a => Keyed.put n a st.traps
        | none => Keyed.erase n st.traps
      setTraps action { st with traps } rest

def trap (st : State) (args : List (List Char)) : State :=
  match args.filter (· ≠ ['-', '-']) with
  | [] =>
    putLines st (st.traps.map fun (n, action) =>
      "trap -- ".toList ++ quoted action ++ ' ' :: (if n = 0 then "EXIT" else signalName n).toList)
  | [s] => setTraps none (st.finish 0) [s]
  | action :: names =>
    if (natural? action).isSome then setTraps none (st.finish 0) (action :: names)
    else setTraps (if action = ['-'] then none else some action) (st.finish 0) names

def wait (st : State) (args : List (List Char)) : State := st.finish (if args.isEmpty then 0 else 127)

def umask (st : State) (args : List (List Char)) : State :=
  match args with
  | [] => putLines st ["0022".toList]
  | ['-', 'S'] :: _ => putLines st ["u=rwx,g=rx,o=rx".toList]
  | _ => st.finish 0

def times (st : State) (_ : List (List Char)) : State :=
  let line := "0m0.000000s 0m0.000000s".toList
  putLines st [line, line]

def nothing (st : State) (_ : List (List Char)) : State := st.finish 0

/-- The command of a name. -/
def find? (name : String) : Option (State → List (List Char) → State) :=
  match name with
  | ":" => some nothing
  | "true" => some nothing
  | "false" => some fun st _ => st.finish 1
  | "echo" => some echo
  | "printf" => some printf
  | "test" => some condition
  | "[" => some bracket
  | "shift" => some shift
  | "exit" => some exit
  | "return" => some giveBack
  | "break" => some (leave false)
  | "continue" => some (leave true)
  | "set" => some set
  | "export" => some «export»
  | "readonly" => some readonly
  | "local" => some «local»
  | "unset" => some unset
  | "read" => some read
  | "pwd" => some pwd
  | "cd" => some cd
  | "chdir" => some cd
  | "kill" => some kill
  | "trap" => some trap
  | "wait" => some wait
  | "umask" => some umask
  | "times" => some times
  | "alias" => some nothing
  | "unalias" => some nothing
  | "hash" => some nothing
  | "jobs" => some nothing
  | "ulimit" => some nothing
  | _ => none

/-- The builtins whose failures end the script, and before which assignments stay. -/
def isSpecial (name : String) : Bool :=
  [".", ":", "break", "continue", "eval", "exec", "exit", "export", "readonly", "return", "set", "shift", "times",
    "trap", "unset"].contains name

/-- Whether a name is that of a builtin, those included that run other commands. -/
def isBuiltin (name : String) : Bool := isSpecial name || name = "command" || name = "type" || (find? name).isSome

end ModelForge.Shell.Builtin
