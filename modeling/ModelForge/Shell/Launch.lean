import ModelForge.Shell.Installed
/-!
Which program runs when a file is started: an installed program itself, or the interpreter that the
first line of a script names, which is given the path of the script.
-/

namespace ModelForge.Shell

/-- An installed program with the words that it is started by: its name and its arguments. -/
structure Invocation where
  program   : String
  name      : List Char
  arguments : List (List Char)
  deriving DecidableEq, Repr

namespace Invocation

def isBlank (c : Char) : Bool := c = ' ' || c = '\t'

/-- No more of a script than this is looked at for its interpreter. -/
def headLength : Nat := 256

/-- The interpreter that a script asks for, and the one argument that may stand behind it. -/
def interpreter? (content : List Char) : Option (List Char × Option (List Char)) :=
  match content with
  | '#' :: '!' :: rest =>
    let line := (rest.take (headLength - 2)).takeWhile (· ≠ '\n')
    let words := ((line.dropWhile isBlank).reverse.dropWhile isBlank).reverse
    let path := words.takeWhile (!isBlank ·)
    let argument := (words.drop path.length).dropWhile isBlank
    if path.isEmpty then none else some (path, if argument.isEmpty then none else some argument)
  | _ => none

/-- What starting the file at a path comes to; interpreters may be scripts themselves, to some depth. -/
def of (fs : FileSystem) : Nat → List Char → List Char → List (List Char) → Except FileError Invocation
  | 0, _, _, _ => .error .tooManyLinks
  | depth + 1, path, name, arguments =>
    match fs.entry (pathOf path) with
    | .ok (.file content true) =>
      match interpreter? (lettersOf content) with
      | none => .error .wrongFormat
      | some (interpreter, argument) =>
        of fs depth interpreter interpreter (argument.toList ++ path :: arguments)
    | .ok _ => .error .permissionDenied
    | .error e =>
      match Installed.at? (pathOf path).text with
      | some program => .ok ⟨program, name, arguments⟩
      | none => .error e

/-- The depth to which interpreters are looked for. -/
def depthLimit : Nat := 6

def ofPath (fs : FileSystem) (path : List Char) (arguments : List (List Char)) : Except FileError Invocation :=
  of fs depthLimit path path arguments

/-- The places where a program of a plain name is looked for. -/
def places (search : List Char) (name : List Char) : List (List Char) :=
  (splitColons search).map fun d => if d.isEmpty then name else d ++ '/' :: name
where
  splitColons : List Char → List (List Char)
    | [] => [[]]
    | c :: rest =>
      if c = ':' then [] :: splitColons rest
      else
        match splitColons rest with
        | [] => [[c]]
        | s :: more => (c :: s) :: more

/-- The first of some paths that can be started; else what is wrong with the ones that are there. -/
def firstOf (fs : FileSystem) (name : List Char) (arguments : List (List Char)) :
    List (List Char) → Except FileError Invocation
  | [] => .error .notFound
  | path :: rest =>
    match of fs depthLimit path name arguments with
    | .error .notFound => firstOf fs name arguments rest
    | .error .notDirectory => firstOf fs name arguments rest
    | .error .permissionDenied =>
      match firstOf fs name arguments rest with
      | .error _ => .error .permissionDenied
      | found => found
    | other => other

/-- What starting a program by its name comes to. A name with a slash is a path; dots are directories
wherever they are looked for. -/
def find (fs : FileSystem) (search name : List Char) (arguments : List (List Char)) : Except FileError Invocation :=
  if name.contains '/' then ofPath fs name arguments
  else if name = ['.'] || name = ['.', '.'] then .error .permissionDenied
  else firstOf fs name arguments (places search name)

end Invocation

end ModelForge.Shell
