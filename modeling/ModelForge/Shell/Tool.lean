import ModelForge.FileSystem.Edit
import ModelForge.Shell.Builtin
import ModelForge.Shell.Glob
import ModelForge.Text.Lines
/-!
Installed programs as scripts use them: they write files out, take texts apart and put them
together, and make, move and remove files. Each takes the name that it was started by and its
arguments; what it knows of the shell are its streams and the files.
-/

namespace ModelForge.Shell.Tool

/-- The arguments of a program: options with their values, and operands. -/
structure Arguments where
  options  : List (Char × List Char) := []
  operands : List (List Char) := []

namespace Arguments

def has (a : Arguments) (c : Char) : Bool := a.options.any (·.1 = c)

/-- The value of the last option of a letter. -/
def value? (a : Arguments) (c : Char) : Option (List Char) := (a.options.filter (·.1 = c)).getLast?.map (·.2)

end Arguments

/-- Letters of one argument; the first one that takes a value takes the rest or the next argument. -/
def letterOptions (known valued : List Char) : List Char → List (List Char) →
    Except String (List (Char × List Char) × List (List Char))
  | [], rest => .ok ([], rest)
  | c :: more, rest =>
    if valued.contains c then
      match more, rest with
      | [], [] => .error ("option requires an argument -- '" ++ String.ofList [c] ++ "'")
      | [], v :: rest => .ok ([(c, v)], rest)
      | v, rest => .ok ([(c, v)], rest)
    else if known.contains c then
      (letterOptions known valued more rest).map fun (os, rest) => ((c, []) :: os, rest)
    else .error ("invalid option -- '" ++ String.ofList [c] ++ "'")

/-- Arguments in which options may stand anywhere before a double dash. -/
def read (known valued : String) : Nat → List (List Char) → Except String Arguments
  | 0, _ => .ok {}
  | fuel + 1, args =>
    match args with
    | [] => .ok {}
    | ['-', '-'] :: rest => .ok { operands := rest }
    | ('-' :: '-' :: name) :: _ => .error ("unrecognized option '--" ++ String.ofList (name.takeWhile (· ≠ '=')) ++ "'")
    | ('-' :: c :: more) :: rest => do
      let (os, rest) ← letterOptions known.toList valued.toList (c :: more) rest
      let a ← read known valued fuel rest
      return { a with options := os ++ a.options }
    | operand :: rest => do
      let a ← read known valued fuel rest
      return { a with operands := operand :: a.operands }

/-- A complaint of a program, which fails with a status. -/
def blameWith (status : Nat) (name : String) (st : State) (message : String) : State :=
  (st.warn (name ++ ": " ++ message)).finish status

def blame (name : String) (st : State) (message : String) : State := blameWith 1 name st message

def tryHelp (name : String) : String := "Try '" ++ name ++ " --help' for more information."

/-- A complaint about the arguments. -/
def misusedWith (status : Nat) (name : String) (st : State) (message : String) : State :=
  blameWith status name st (message ++ "\n" ++ tryHelp name)

def misused (name : String) (st : State) (message : String) : State := misusedWith 1 name st message

/-- Goes on with the arguments, if the program knows all options. -/
def withArguments (name : String) (st : State) (status : Nat) (known valued : String) (args : List (List Char))
    (go : Arguments → State) : State :=
  match read known valued (args.length + 1) args with
  | .ok a => go a
  | .error m => misusedWith status name st m

/-- As `withArguments`, for programs that need an operand at least. -/
def withOperands (name : String) (st : State) (status : Nat) (known valued : String) (args : List (List Char))
    (go : Arguments → State) : State :=
  withArguments name st status known valued args fun a =>
    if a.operands.isEmpty then misusedWith status name st "missing operand" else go a

/-- Writes to the output; the status stays, unless there is no room for it. -/
def putWith (failure : Nat) (name : String) (st : State) (s : List Char) : State :=
  match st.write 1 (bytesOf s) with
  | .ok st => st
  | .error e => blameWith failure name st ("write error: " ++ e.reason)

def put (name : String) (st : State) (s : List Char) : State := putWith 1 name st s

def spell (s : List Char) : String := "'" ++ String.ofList s ++ "'"

/-- What a file holds; a dash is the input. -/
def content (st : State) (file : List Char) : Except String (List Char × State) :=
  if file = ['-'] || file = "/dev/stdin".toList then
    match st.readAll 0 with
    | .ok (bs, st) => .ok (lettersOf bs, st)
    | .error e => .error e.reason
  else
    match st.files.read (pathOf file) with
    | .ok bs => .ok (lettersOf bs, st)
    | .error e => .error e.reason

/-- Does something with what each of some files holds, the input if there are none. -/
def eachContent (name : String) (st : State) (files : List (List Char))
    (go : State → List Char → List Char → State) : State :=
  (if files.isEmpty then [['-']] else files).foldl (fun st file =>
    match content st file with
    | .ok (s, st) => go st file s
    | .error m => blame name st (String.ofList file ++ ": " ++ m)) st

/-- The lines of a text, the last of which need not be ended. -/
def linesOf (s : List Char) : List (List Char) :=
  let (done, last) := Text.breakAtFeeds s
  if last.isEmpty then done else done ++ [last]

def ended (ls : List (List Char)) : List Char := ls.flatMap (· ++ ['\n'])

/-- A text on the right side of so much room. -/
def right (width : Nat) (s : List Char) : List Char := List.replicate (width - s.length) ' ' ++ s

def cat (name : String) (st : State) (args : List (List Char)) : State :=
  withArguments name st 1 "AbeEnstTuv" "" args fun a =>
    eachContent name st a.operands fun st _ s =>
      let shown := if a.has 'n' then
          ((linesOf s).zipIdx 1).flatMap fun (l, n) => right 6 (toString n).toList ++ '\t' :: l ++ ['\n']
        else s
      let shown := if a.has 'n' && s.getLast? ≠ some '\n' then shown.dropLast else shown
      match st.write 1 (bytesOf shown) with
      | .ok st => st
      | .error .closed => blame name st ("standard output: " ++ StreamError.closed.reason)
      | .error e => blame name st ("write error: " ++ e.reason)

/-- A name without the slashes at its end and all before the last one in it. -/
def lastStep (path : List Char) : List Char :=
  let trimmed := (path.reverse.dropWhile (· = '/')).reverse
  if trimmed.isEmpty then path.take 1 else (trimmed.reverse.takeWhile (· ≠ '/')).reverse

def withoutSuffix (suffix s : List Char) : List Char :=
  if suffix.length < s.length && s.drop (s.length - suffix.length) = suffix then s.take (s.length - suffix.length) else s

def basename (name : String) (st : State) (args : List (List Char)) : State :=
  withOperands name st 1 "a" "s" args fun a =>
    if a.has 'a' || a.has 's' then
      put name st (ended (a.operands.map fun p => withoutSuffix ((a.value? 's').getD []) (lastStep p)))
    else
      match a.operands with
      | [p] => put name st (lastStep p ++ ['\n'])
      | [p, suffix] => put name st (withoutSuffix suffix (lastStep p) ++ ['\n'])
      | p :: _ => misused name st ("extra operand " ++ spell ((a.operands.drop 2).head?.getD p))
      | [] => st

def directoryOf (path : List Char) : List Char :=
  let trimmed := (path.reverse.dropWhile (· = '/')).reverse
  let front := ((trimmed.reverse.dropWhile (· ≠ '/')).dropWhile (· = '/')).reverse
  if !front.isEmpty then front else if path.head? = some '/' then ['/'] else ['.']

def dirname (name : String) (st : State) (args : List (List Char)) : State :=
  withOperands name st 1 "" "" args fun a => put name st (ended (a.operands.map directoryOf))

/-- Changes the files once for each operand. -/
def eachChange (name : String) (st : State) (operands : List (List Char))
    (change : FileSystem → List Char → Except String FileSystem) : State :=
  operands.foldl (fun st o =>
    match change st.files o with
    | .ok files => { st with files }
    | .error m => blame name st m) st

/-- The beginnings of a path that end before a slash, and the path itself. -/
def stations (path : List Char) : List (List Char) :=
  (List.range path.length).filterMap fun n =>
    if n + 1 = path.length || path[n + 1]? = some '/' then
      let station := path.take (n + 1)
      if station.getLast? = some '/' then none else some station
    else none

def mkdir (name : String) (st : State) (args : List (List Char)) : State :=
  withOperands name st 1 "pvZ" "m" args fun a =>
    let complaint (p : List Char) (e : FileError) := "cannot create directory " ++ spell p ++ ": " ++ e.reason
    eachChange name st a.operands fun fs p =>
      if a.has 'p' then
        (stations p).foldlM (fun fs station =>
          if fs.isDirectory (pathOf station) then .ok fs
          else (fs.makeDirectory (pathOf station)).mapError fun e =>
            complaint station (if e = .alreadyThere && station ≠ p then .notDirectory else e)) fs
      else (fs.makeDirectory (pathOf p)).mapError (complaint p)

def rmdir (name : String) (st : State) (args : List (List Char)) : State :=
  withOperands name st 1 "pv" "" args fun a =>
    eachChange name st a.operands fun fs p =>
      (fs.removeDirectory (pathOf p)).mapError fun e => "failed to remove " ++ spell p ++ ": " ++ e.reason

def rm (name : String) (st : State) (args : List (List Char)) : State :=
  withArguments name st 1 "dfiIrRv" "" args fun a =>
    if a.operands.isEmpty then if a.has 'f' then st else misused name st "missing operand"
    else
      eachChange name st a.operands fun fs p =>
        match fs.removeFile (pathOf p) with
        | .ok fs => .ok fs
        | .error .isDirectory =>
          if a.has 'r' || a.has 'R' then
            match fs.resolveLink (FileSystem.bare (pathOf p)) with
            | .ok (.entry l _) =>
              (fs.changing l (fs.without l)).mapError fun e => "cannot remove " ++ spell p ++ ": " ++ e.reason
            | _ => .ok fs
          else .error ("cannot remove " ++ spell p ++ ": Is a directory")
        | .error e =>
          if a.has 'f' && e = .notFound then .ok fs
          else .error ("cannot remove " ++ spell p ++ ": " ++ e.reason)

def touch (name : String) (st : State) (args : List (List Char)) : State :=
  withArguments name st 1 "acfhm" "drt" args fun a =>
    if a.operands.isEmpty then misused name st "missing file operand"
    else
      eachChange name st a.operands fun fs p =>
        match fs.resolve (pathOf p) with
        | .ok (.entry _ _) => .ok fs
        | .ok (.free l) =>
          if a.has 'c' then .ok fs
          else (fs.changing l (fs.create l [])).mapError fun e => "cannot touch " ++ spell p ++ ": " ++ e.reason
        | .error e => .error ("cannot touch " ++ spell p ++ ": " ++ e.reason)

/-- Where something goes that is put at a path: into a directory that lies there, under its own name. -/
def destination (fs : FileSystem) (source target : List Char) : List Char :=
  if fs.isDirectory (pathOf target) then
    (if target.getLast? = some '/' then target else target ++ ['/']) ++ lastStep source
  else target

/-- Goes on with each source and the one target behind them. -/
def intoTarget (name : String) (st : State) (operands : List (List Char))
    (change : FileSystem → List Char → List Char → Except String FileSystem) : State :=
  match operands.reverse with
  | [] => misused name st "missing file operand"
  | [o] => misused name st ("missing destination file operand after " ++ spell o)
  | target :: sources =>
    if sources.length > 1 && !st.files.isDirectory (pathOf target) then
      blame name st ("target " ++ spell target ++ ": " ++
        if st.files.exists (pathOf target) then "Not a directory" else "No such file or directory")
    else eachChange name st sources.reverse fun fs source => change fs source (destination fs source target)

def cp (name : String) (st : State) (args : List (List Char)) : State :=
  withArguments name st 1 "abdfiHlLnpPrRsTuvx" "St" args fun a =>
    let deep := a.has 'r' || a.has 'R' || a.has 'a'
    intoTarget name st a.operands fun fs source target =>
      match fs.resolve (pathOf source) with
      | .ok (.entry l .directory) =>
        if !deep then .error ("-r not specified; omitting directory " ++ spell source)
        else
          match fs.resolve (FileSystem.bare (pathOf target)) with
          | .ok (.free m) =>
            (fs.changing m (fs.duplicate l m)).mapError fun e =>
              "cannot create directory " ++ spell target ++ ": " ++ e.reason
          | .ok (.entry m .directory) => .ok (fs.duplicate l m)
          | .ok (.entry _ _) =>
            .error ("cannot overwrite non-directory " ++ spell target ++ " with directory " ++ spell source)
          | .error e => .error ("cannot create directory " ++ spell target ++ ": " ++ e.reason)
      | .ok (.entry l e) =>
        let refused := "cannot create regular file " ++ spell target ++ ": Permission denied"
        match fs.resolve (pathOf target), e with
        | .ok (.free m), e =>
          if !fs.allows .read l then .error ("cannot open " ++ spell source ++ " for reading: Permission denied")
          else (fs.changing m (fs.set m e)).mapError fun _ => refused
        | .ok (.entry m (.file _ executable)), .file bytes _ =>
          if l = m then .error (spell source ++ " and " ++ spell target ++ " are the same file")
          else if !fs.allows .read l then
            .error ("cannot open " ++ spell source ++ " for reading: Permission denied")
          else if !fs.allows .write m then .error refused
          else .ok (fs.overwrite m bytes executable)
        | .ok (.entry _ _), _ =>
          .error ("cannot overwrite directory " ++ spell target ++ " with non-directory " ++ spell source)
        | .error e, _ => .error ("cannot create regular file " ++ spell target ++ ": " ++ e.reason)
      | .ok (.free _) => .error ("cannot stat " ++ spell source ++ ": No such file or directory")
      | .error e => .error ("cannot stat " ++ spell source ++ ": " ++ e.reason)

def mv (name : String) (st : State) (args : List (List Char)) : State :=
  withArguments name st 1 "bfinTuvZ" "St" args fun a =>
    intoTarget name st a.operands fun fs source target =>
      match fs.resolveLink (FileSystem.bare (pathOf source)) with
      | .ok (.entry l e) =>
        let moved (m : Location) : Except String FileSystem :=
          ((fs.changing l fs).bind fun _ => fs.changing m ((fs.without m).duplicate l m |>.without l)).mapError fun e =>
            "cannot move " ++ spell source ++ " to " ++ spell target ++ ": " ++ e.reason
        match fs.resolveLink (FileSystem.bare (pathOf target)), e with
        | .ok (.free m), _ =>
          if e = .directory && m.take l.length = l then
            .error ("cannot move " ++ spell source ++ " to a subdirectory of itself, " ++ spell target)
          else moved m
        | .ok (.entry m .directory), .directory =>
          if fs.childNames m = [] then moved m
          else .error ("cannot overwrite " ++ spell target ++ ": Directory not empty")
        | .ok (.entry _ .directory), _ =>
          .error ("cannot overwrite directory " ++ spell target ++ " with non-directory")
        | .ok (.entry _ _), .directory =>
          .error ("cannot overwrite non-directory " ++ spell target ++ " with directory " ++ spell source)
        | .ok (.entry m _), _ =>
          if l = m then .error (spell source ++ " and " ++ spell target ++ " are the same file") else moved m
        | .error e, _ => .error ("cannot move " ++ spell source ++ " to " ++ spell target ++ ": " ++ e.reason)
      | .ok (.free _) => .error ("cannot stat " ++ spell source ++ ": No such file or directory")
      | .error e => .error ("cannot stat " ++ spell source ++ ": " ++ e.reason)

def ln (name : String) (st : State) (args : List (List Char)) : State :=
  withArguments name st 1 "bdfFiLnPrsTv" "St" args fun a =>
    intoTarget name st a.operands fun fs source target =>
      let fs := if a.has 'f' then (fs.removeFile (pathOf target)).toOption.getD fs else fs
      if a.has 's' then
        (fs.makeLink (pathOf source) (pathOf target)).mapError fun e =>
          "failed to create symbolic link " ++ spell target ++ ": " ++ e.reason
      else
        match fs.resolve (pathOf source) with
        | .ok (.entry _ .directory) => .error (String.ofList source ++ ": hard link not allowed for directory")
        | .ok (.entry _ e) =>
          match fs.resolveLink (pathOf target) with
          | .ok (.free m) =>
            (fs.changing m (fs.set m e)).mapError fun e => "failed to create hard link " ++ spell target ++ ": " ++ e.reason
          | .ok (.entry _ _) => .error ("failed to create hard link " ++ spell target ++ ": File exists")
          | .error e => .error ("failed to create hard link " ++ spell target ++ ": " ++ e.reason)
        | .ok (.free _) => .error ("failed to access " ++ spell source ++ ": No such file or directory")
        | .error e => .error ("failed to access " ++ spell source ++ ": " ++ e.reason)

/-- Whether a mode makes files executable; none if it does not say. -/
def executable? (mode : List Char) : Except String (Option Bool) :=
  if !mode.isEmpty && mode.all fun c => (Format.octalValue? c).isSome then
    .ok (some (mode.reverse.take 3 |>.any fun c => c.toNat % 2 = 1))
  else
    let who := mode.takeWhile fun c => "ugoa".toList.contains c
    match mode.drop who.length with
    | sign :: what =>
      if "+-=".toList.contains sign && what.all fun c => "rwxXst".toList.contains c then
        .ok (if what.contains 'x' then some (sign ≠ '-') else if sign = '=' then some false else none)
      else .error ("invalid mode: " ++ spell mode)
    | [] => .error ("invalid mode: " ++ spell mode)

def chmod (name : String) (st : State) (args : List (List Char)) : State :=
  -- A mode that takes rights away looks like an option.
  let args := match args with
    | ('-' :: c :: more) :: rest =>
      if "rwx".toList.contains c then ['-', '-'] :: ('-' :: c :: more) :: rest else args
    | _ => args
  withOperands name st 1 "cfvR" "" args fun a =>
    match a.operands with
    | [] => st
    | [mode] => misused name st ("missing operand after " ++ spell mode)
    | mode :: files =>
      match executable? mode with
      | .error m => misused name st m
      | .ok x =>
        eachChange name st files fun fs p =>
          match x with
          | some x => (fs.setExecutable (pathOf p) x).mapError fun e => "cannot access " ++ spell p ++ ": " ++ e.reason
          | none => if fs.exists (pathOf p) then .ok fs else .error ("cannot access " ++ spell p ++ ": No such file or directory")

def ls (name : String) (st : State) (args : List (List Char)) : State :=
  withArguments name st 2 "1aAdFfhiklmnopqrRsStuUvxXC" "wI" args fun a =>
    let operands := if a.operands.isEmpty then [['.']] else a.operands.mergeSort fun x y => !decide (y < x)
    let isDirectory (p : List Char) : Bool := !a.has 'd' && st.files.isDirectory (pathOf p)
    let missing := operands.filter fun p => !Test.isThere st p
    let files := operands.filter fun p => Test.isThere st p && !isDirectory p
    let directories := operands.filter isDirectory
    let marked (directory n : List Char) : List Char :=
      if a.has 'F' && st.files.isDirectory (pathOf (directory ++ '/' :: n)) then n ++ ['/'] else n
    let listing (d : List Char) : List Char :=
      let names := ((st.files.list (pathOf d)).toOption.getD []).map letters
      let names := if a.has 'a' then ['.'] :: ['.', '.'] :: names else names
      let names := if a.has 'a' || a.has 'A' then names else names.filter fun n => n.head? ≠ some '.'
      ended ((names.mergeSort fun x y => !decide (y < x)).map (marked d))
    let blocks := (if files.isEmpty then [] else [ended files]) ++ directories.map fun d =>
      (if operands.length > 1 then d ++ [':', '\n'] else []) ++ listing d
    let st := missing.foldl (fun st p => blameWith 2 name st ("cannot access " ++ spell p ++ ": No such file or directory")) st
    putWith 2 name st (State.joined ['\n'] blocks)

/-- The number of lines or bytes that an option asks for, and whether it counts from the other end. -/
def amount (s : List Char) : Nat × Bool :=
  match s with
  | '-' :: ds => ((Builtin.natural? ds).getD 0, true)
  | '+' :: ds => ((Builtin.natural? ds).getD 0, true)
  | ds => ((Builtin.natural? ds).getD 10, false)

/-- Lines with their ends. -/
def endedLines (s : List Char) : List (List Char) :=
  let (done, last) := Text.breakAtFeeds s
  done.map (· ++ ['\n']) ++ if last.isEmpty then [] else [last]

/-- The beginning or the end of files. -/
def part (fromEnd : Bool) (name : String) (st : State) (args : List (List Char)) : State :=
  let args := args.flatMap fun arg =>
    match arg with
    | '-' :: c :: ds => if c.isDigit then [['-', 'n'], c :: ds] else [arg]
    | _ => [arg]
  withArguments name st 1 "fqvz" "nc" args fun a =>
    let (n, opposite) := amount ((a.value? 'n').getD ((a.value? 'c').getD "10".toList))
    let cut {α : Type} (xs : List α) : List α :=
      if fromEnd then if opposite then xs.drop (n - 1) else xs.drop (xs.length - n)
      else if opposite then xs.take (xs.length - n) else xs.take n
    eachContent name st a.operands fun st file s =>
      let heading := if a.operands.length > 1 then "==> ".toList ++ file ++ " <==\n".toList else []
      put name st (heading ++ if (a.value? 'c').isSome then cut s else (cut (endedLines s)).flatten)

/-- The number of words between blanks. -/
def wordCount (s : List Char) : Nat :=
  (s.foldl (fun (n, inside) c =>
    if Expression.isSpace c then (n, false) else (if inside then n else n + 1, true)) (0, false)).1

def wc (name : String) (st : State) (args : List (List Char)) : State :=
  withArguments name st 1 "clLmw" "" args fun a =>
    let plain := !(a.has 'c' || a.has 'l' || a.has 'm' || a.has 'w')
    let counts (s : List Char) : List Nat :=
      (if plain || a.has 'l' then [s.count '\n'] else []) ++ (if plain || a.has 'w' then [wordCount s] else []) ++
        (if plain || a.has 'c' || a.has 'm' then [s.length] else [])
    let operands := if a.operands.isEmpty then [['-']] else a.operands
    let (st, rows) := operands.foldl (fun (st, rows) file =>
      match content st file with
      | .ok (s, st) => (st, rows ++ [(counts s, file)])
      | .error m => (blame name st (String.ofList file ++ ": " ++ m), rows)) (st, ([] : List (List Nat × List Char)))
    let sums := rows.foldl (fun sums r => if sums.isEmpty then r.1 else (sums.zip r.1).map fun (x, y) => x + y) []
    let rows := if operands.length > 1 then rows ++ [(sums, "total".toList)] else rows
    let width := if operands.length = 1 && (counts []).length = 1 then 0
      else if a.operands.isEmpty then 7
      else (toString ((rows.map fun r => r.1.foldl max 0).foldl max 0)).length
    let line (r : List Nat × List Char) : List Char :=
      State.joined [' '] (r.1.map fun n => right width (toString n).toList) ++
        if a.operands.isEmpty then [] else ' ' :: r.2
    put name st (ended (rows.map line))

def sequence (name : String) (st : State) (args : List (List Char)) : State :=
  let (separator, args) := match args with
    | ['-', 's'] :: s :: rest => (s, rest)
    | ('-' :: 's' :: s) :: rest => (s, rest)
    | _ => (['\n'], args)
  let numbers := args.filterMap Expression.number?
  if args.isEmpty then misused name st "missing operand"
  else
    match args.find? fun s => (Expression.number? s).isNone with
    | some s => misused name st ("invalid floating point argument: " ++ spell s)
    | none =>
      let (first, step, last) : Int × Int × Int := match numbers with
        | [n] => (1, 1, n)
        | [m, n] => (m, 1, n)
        | m :: s :: n :: _ => (m, s, n)
        | [] => (1, 1, 0)
      if step = 0 then misused name st ("invalid Zero increment value: " ++ spell ['0'])
      else
        let steps := ((last - first) / step + 1).toNat
        let items := (List.range (min steps 100000)).map fun (k : Nat) => (toString (first + step * (k : Nat))).toList
        put name st (if items.isEmpty then [] else State.joined separator items ++ ['\n'])

def tac (name : String) (st : State) (args : List (List Char)) : State :=
  withArguments name st 1 "" "" args fun a =>
    eachContent name st a.operands fun st _ s => put name st (endedLines s).reverse.flatten

/-- The characters that a set stands for, with ranges and escapes. -/
def characterSet : Nat → List Char → List Char
  | 0, _ => []
  | fuel + 1, cs =>
    match cs with
    | [] => []
    | '\\' :: c :: rest =>
      if (Format.octalValue? c).isSome then
        let (n, rest) := Format.octal 0 3 (c :: rest)
        Format.byte n :: characterSet fuel rest
      else (Format.escaped? c).getD c :: characterSet fuel rest
    | '[' :: ':' :: rest =>
      let kind := String.ofList (rest.takeWhile Char.isAlpha)
      (((List.range 256).map Char.ofNat).filter (Glob.classAdmits kind)) ++ characterSet fuel (rest.drop (kind.length + 2))
    | a :: '-' :: b :: rest =>
      ((List.range (b.toNat + 1 - a.toNat)).map fun k => Char.ofNat (a.toNat + k)) ++ characterSet fuel rest
    | c :: rest => c :: characterSet fuel rest

/-- A text in which rows of equal characters of a set have become one. -/
def squeezed (set : List Char) : List Char → List Char
  | a :: b :: rest =>
    if a = b && set.contains a then squeezed set (b :: rest) else a :: squeezed set (b :: rest)
  | s => s

def tr (name : String) (st : State) (args : List (List Char)) : State :=
  withOperands name st 1 "cCdst" "" args fun a =>
    let sets := a.operands.map fun s => characterSet (s.length + 1) s
    let first := sets.head?.getD []
    let second := (sets.drop 1).head?.getD []
    let isIn (c : Char) : Bool := first.contains c != (a.has 'c' || a.has 'C')
    if a.operands.length = 1 && !a.has 'd' && !a.has 's' then
      misused name st ("missing operand after " ++ spell (a.operands.head?.getD []) ++
        "\nTwo strings must be given when translating.")
    else
      eachContent name st [] fun st _ s =>
        let changed (c : Char) : Char :=
          if !isIn c then c
          else
            let place := if a.has 'c' || a.has 'C' then second.length else first.idxOf c
            (second[place]?).getD (second.getLast?.getD c)
        let s := if a.has 'd' then s.filter (!isIn ·) else if second.isEmpty then s else s.map changed
        put name st (if a.has 's' then squeezed (if second.isEmpty then first else second) s else s)

def sort (name : String) (st : State) (args : List (List Char)) : State :=
  withArguments name st 2 "bdfgMhnrsuVz" "kto" args fun a =>
    let (st, ls) := (if a.operands.isEmpty then [['-']] else a.operands).foldl (fun (st, ls) file =>
      match content st file with
      | .ok (s, st) => (st, ls ++ linesOf s)
      | .error m => (blameWith 2 name st ("cannot read: " ++ String.ofList file ++ ": " ++ m), ls)) (st, ([] : List (List Char)))
    let fields (l : List Char) : List Char :=
      match (a.value? 'k').bind fun k => Builtin.natural? (k.takeWhile Char.isDigit) with
      | some n => ((Atom.fields (Atom.ofValue [' ', '\t'] false l)).drop (n - 1)).flatMap fun f => f.map (·.char) ++ [' ']
      | none => l
    let number (l : List Char) : Int := (Format.numberOf (fields l)).1
    let before (x y : List Char) : Bool :=
      if a.has 'n' && number x ≠ number y then decide (number x ≤ number y)
      else if fields x ≠ fields y then !decide (fields y < fields x)
      else !decide (y < x)
    let sorted := ls.mergeSort before
    let sorted := if a.has 'r' then sorted.reverse else sorted
    putWith 2 name st (ended (if a.has 'u' then sorted.eraseReps else sorted))

/-- Rows of equal lines, with their lengths. -/
def rows : List (List Char) → List (Nat × List Char)
  | [] => []
  | l :: rest =>
    match rows rest with
    | (n, m) :: more => if l = m then (n + 1, m) :: more else (1, l) :: (n, m) :: more
    | [] => [(1, l)]

def uniq (name : String) (st : State) (args : List (List Char)) : State :=
  withArguments name st 1 "cdiu" "fsw" args fun a =>
    eachContent name st (a.operands.take 1) fun st _ s =>
      let kept := (rows (linesOf s)).filter fun (n, _) => (!a.has 'd' || n > 1) && (!a.has 'u' || n = 1)
      put name st (ended (kept.map fun (n, l) => if a.has 'c' then right 7 (toString n).toList ++ ' ' :: l else l))

def tee (name : String) (st : State) (args : List (List Char)) : State :=
  withArguments name st 1 "aip" "" args fun a =>
    eachContent name st [] fun st _ s =>
      let st := a.operands.foldl (fun st file =>
        let old := if a.has 'a' then (st.files.read (pathOf file)).toOption.getD [] else []
        match st.files.write (pathOf file) (old ++ bytesOf s) with
        | .ok files => { st with files }
        | .error e => blame name st (String.ofList file ++ ": " ++ e.reason)) st
      put name st s

/-- The value of the words of an expression: one word, two that are joined by an operator, or a longer
row that is worked off from the left. -/
def value : Nat → List (List Char) → Except String (List Char)
  | 0, _ => .error "syntax error"
  | fuel + 1, words =>
    match words with
    | [] => .error "syntax error: missing argument"
    | [a] => .ok a
    | [f, s] =>
      if f = "length".toList then .ok (toString s.length).toList
      else .error ("syntax error: unexpected argument " ++ spell s)
    | a :: op :: b :: rest => do
      let r ← applied (String.ofList op) a b
      if rest.isEmpty then return r else value fuel (r :: rest)
where
  applied (op : String) (a b : List Char) : Except String (List Char) :=
    let numbers := (Expression.number? a).bind fun x => (Expression.number? b).map fun y => (x, y)
    let shown (b : Bool) : List Char := if b then ['1'] else ['0']
    let compared (p : Int → Int → Bool) (q : List Char → List Char → Bool) : Except String (List Char) :=
      match numbers with
      | some (x, y) => .ok (shown (p x y))
      | none => .ok (shown (q a b))
    let computed (s : Sign) : Except String (List Char) :=
      match numbers with
      | some (x, y) =>
        match Expression.apply s x y with
        | some n => .ok (toString n).toList
        | none => .error "division by zero"
      | none => .error "non-integer argument"
    let isNothing (s : List Char) : Bool := s.isEmpty || s = ['0']
    match op with
    | "+" => computed .add
    | "-" => computed .sub
    | "*" => computed .mul
    | "/" => computed .div
    | "%" => computed .mod
    | "=" => compared (· = ·) (· = ·)
    | "!=" => compared (· ≠ ·) (· ≠ ·)
    | "<" => compared (· < ·) fun x y => decide (x < y)
    | "<=" => compared (· ≤ ·) fun x y => !decide (y < x)
    | ">" => compared (· > ·) fun x y => decide (y < x)
    | ">=" => compared (· ≥ ·) fun x y => !decide (x < y)
    | "|" => .ok (if isNothing a then if isNothing b then ['0'] else b else a)
    | "&" => .ok (if isNothing a || isNothing b then ['0'] else a)
    | _ => .error ("syntax error: unexpected argument " ++ spell op.toList)

def expr (name : String) (st : State) (args : List (List Char)) : State :=
  if args.isEmpty then misusedWith 2 name st "missing operand"
  else
    match value (args.length + 1) args with
    | .ok s => (put name st (s ++ ['\n'])).finish (if s.isEmpty || s = ['0'] then 1 else 0)
    | .error m => blameWith 2 name st m

def sleep (name : String) (st : State) (args : List (List Char)) : State :=
  withOperands name st 1 "" "" args fun a =>
    let isTime (s : List Char) : Bool :=
      let s := if s.getLast?.any fun c => "smhd".toList.contains c then s.dropLast else s
      !s.isEmpty && s.all fun c => c.isDigit || c = '.'
    match a.operands.find? (!isTime ·) with
    | some s => misused name st ("invalid time interval " ++ spell s)
    | none => st

/-- Runs a program that neither is a shell nor runs others. -/
def run (program : String) (name : String) (st : State) (args : List (List Char)) : State :=
  let st := { st with builtin := none }.finish 0
  match program with
  | "true" => st
  | "false" => st.finish 1
  | "cat" => cat name st args
  | "basename" => basename name st args
  | "dirname" => dirname name st args
  | "mkdir" => mkdir name st args
  | "rmdir" => rmdir name st args
  | "rm" => rm name st args
  | "touch" => touch name st args
  | "cp" => cp name st args
  | "mv" => mv name st args
  | "ln" => ln name st args
  | "chmod" => chmod name st args
  | "ls" => ls name st args
  | "head" => part false name st args
  | "tail" => part true name st args
  | "wc" => wc name st args
  | "seq" => sequence name st args
  | "tac" => tac name st args
  | "tr" => tr name st args
  | "sort" => sort name st args
  | "uniq" => uniq name st args
  | "tee" => tee name st args
  | "expr" => expr name st args
  | "sleep" => sleep name st args
  | "echo" => put name st (plainEcho args)
  | "printf" => { Builtin.printf { st with builtin := some name } (['-', '-'] :: args) with builtin := none }
  | "test" => condition st args
  | "[" => if args.getLast? = some [']'] then condition st args.dropLast else blameWith 2 name st "missing ']'"
  | "pwd" => put name st (Builtin.workingDirectory st ++ ['\n'])
  | _ => withArguments name st ((Installed.status? program).getD 1)
      "abcdefghijklmnopqrstuvwxyzABCDEFGHIJKLMNOPQRSTUVWXYZ0123456789" "" args fun _ => st
where
  condition (st : State) (args : List (List Char)) : State :=
    match Test.holds st args with
    | .ok r => st.finish (if r then 0 else 1)
    | .error _ => blameWith 2 name st ("extra argument " ++ spell ((args.drop 1).head?.getD []))
  plainEcho (args : List (List Char)) : List Char :=
    match args with
    | ['-', 'n'] :: rest => State.joined [' '] rest
    | _ => State.joined [' '] args ++ ['\n']

end ModelForge.Shell.Tool
