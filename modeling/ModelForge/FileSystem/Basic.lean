import ModelForge.Keyed
import ModelForge.Path
import ModelForge.Text.Utf8
/-!
A file system as a value: a finite map from locations to entries, the directory that relative paths
start from, and what its user may not do. A path leads to a location by walking its steps and
following links on the way.
-/

namespace ModelForge

inductive FileError
  | notFound
  | permissionDenied
  | wrongFormat
  | alreadyThere
  | notDirectory
  | isDirectory
  | nameTooLong
  | notEmpty
  | tooManyLinks
  /-- No file can have a name with this character. -/
  | nulInPath
  /-- No program can be given an argument with this character. -/
  | nulInArgument
  /-- The content is not UTF-8. -/
  | notText
  deriving DecidableEq, Repr

namespace FileError

def reason : FileError → String
  | notFound => "No such file or directory"
  | wrongFormat => "Exec format error"
  | permissionDenied => "Permission denied"
  | alreadyThere => "File exists"
  | notDirectory => "Not a directory"
  | isDirectory => "Is a directory"
  | nameTooLong => "File name too long"
  | notEmpty => "Directory not empty"
  | tooManyLinks => "Too many levels of symbolic links"
  | nulInPath => "file name contained an unexpected NUL byte"
  | nulInArgument => "nul byte found in provided data"
  | notText => "stream did not contain valid UTF-8"

/-- The number of an error that the operating system reports. -/
def code? : FileError → Option Nat
  | notFound => some 2
  | wrongFormat => some 8
  | permissionDenied => some 13
  | alreadyThere => some 17
  | notDirectory => some 20
  | isDirectory => some 21
  | nameTooLong => some 36
  | notEmpty => some 39
  | tooManyLinks => some 40
  | nulInPath => none
  | nulInArgument => none
  | notText => none

def message (e : FileError) : String :=
  match e.code? with
  | some n => e.reason ++ " (os error " ++ toString n ++ ")"
  | none => e.reason

end FileError

/-- The names from the root of the file system down. -/
abbrev Location := List String

inductive Entry
  | file (content : Bytes) (executable : Bool)
  | directory
  | link (target : Path)
  deriving DecidableEq, Repr

/-- What can be done with an entry: reading a file or listing a directory, writing a file or making
and removing names in a directory, and going through a directory. -/
inductive Access
  | read
  | write
  | search
  deriving DecidableEq, Repr

structure FileSystem where
  /-- All entries but the root, which is always a directory. -/
  entries : List (Location × Entry) := []
  /-- Where relative paths start. -/
  home    : Location := []
  /-- What the user is kept from; nothing, for a user with all rights. -/
  denied  : List (Location × Access) := []
  deriving DecidableEq, Repr

/-- What a path leads to. -/
inductive Target
  | entry (location : Location) (entry : Entry)
  /-- Only the last name is missing, so that a file can be made there. -/
  | free (location : Location)
  deriving DecidableEq, Repr

namespace FileSystem

def at? (fs : FileSystem) (l : Location) : Option Entry :=
  if l = [] then some .directory else Keyed.find? l fs.entries

def set (fs : FileSystem) (l : Location) (e : Entry) : FileSystem :=
  { fs with entries := Keyed.put l e fs.entries }

def allows (fs : FileSystem) (a : Access) (l : Location) : Bool := !fs.denied.contains (l, a)

/-- Makes a file, with which its maker may do everything. -/
def create (fs : FileSystem) (l : Location) (content : Bytes) : FileSystem :=
  { fs.set l (.file content false) with denied := fs.denied.filter (·.1 ≠ l) }

/-- Replaces the content of a file, of which all else stays. -/
def overwrite (fs : FileSystem) (l : Location) (content : Bytes) (executable : Bool) : FileSystem :=
  fs.set l (.file content executable)

/-- The longest name, in bytes. -/
def nameLimit : Nat := 255

/-- Paths are shorter than this, in bytes. -/
def pathLimit : Nat := 4096

/-- The number of links that one walk follows. -/
def linkLimit : Nat := 40

/-- The names to walk. A slash at the end asks for a directory, like a last `.`. -/
def walkSteps (p : Path) : List String :=
  let parts := Path.splitSlashes p.text.toList
  let names := (parts.filter (· ≠ [])).map String.ofList
  if parts.getLast? = some [] then names ++ ["."] else names

/-- Where a path starts that is met at a location. -/
def startOf (p : Path) (here : Location) : Location := if p.isAbsolute then [] else here

/-- Walks from a directory. Links are followed, the last one too. -/
def walk (fs : FileSystem) (links : Nat) (here : Location) (steps : List String) : Except FileError Target :=
  match fs.at? here, steps with
  | none, _ => .error .notFound
  | some e, [] => .ok (.entry here e)
  | some .directory, name :: rest =>
    if !fs.allows .search here then .error .permissionDenied
    else if name = "." then walk fs links here rest
    else if name = ".." then walk fs links here.dropLast rest
    else if name.utf8ByteSize > nameLimit then .error .nameTooLong
    else
      match fs.at? (here ++ [name]) with
      | none => if rest = [] then .ok (.free (here ++ [name])) else .error .notFound
      | some (.link target) =>
        match links with
        | 0 => .error .tooManyLinks
        | links + 1 => walk fs links (startOf target here) (walkSteps target ++ rest)
      | some _ => walk fs links (here ++ [name]) rest
  | some _, _ :: _ => .error .notDirectory
termination_by (links, steps.length)

/-- What a path leads to. -/
def resolve (fs : FileSystem) (p : Path) : Except FileError Target :=
  if p.text.isEmpty then .error .notFound
  else if p.text.toList.contains '\x00' then .error .nulInPath
  else if p.text.utf8ByteSize ≥ pathLimit then .error .nameTooLong
  else fs.walk linkLimit (startOf p fs.home) (walkSteps p)

/-- What a path leads to when a link at its end is not followed. -/
def resolveLink (fs : FileSystem) (p : Path) : Except FileError Target :=
  let steps := walkSteps p
  match steps.getLast? with
  | none => fs.resolve p
  | some name =>
    if p.text.isEmpty || name = "." || name = ".." || name.utf8ByteSize > nameLimit ||
        p.text.toList.contains '\x00' then fs.resolve p
    else
      match fs.walk linkLimit (startOf p fs.home) steps.dropLast with
      | .ok (.entry l .directory) =>
        if !fs.allows .search l then .error .permissionDenied
        else
          match fs.at? (l ++ [name]) with
          | some e => .ok (.entry (l ++ [name]) e)
          | none => .ok (.free (l ++ [name]))
      | .ok (.entry _ _) => .error .notDirectory
      | .ok (.free _) => .error .notFound
      | .error e => .error e

/-- The entry that a path leads to. -/
def entry (fs : FileSystem) (p : Path) : Except FileError Entry :=
  match fs.resolve p with
  | .ok (.entry _ e) => .ok e
  | .ok (.free _) => .error .notFound
  | .error e => .error e

def «exists» (fs : FileSystem) (p : Path) : Bool := (fs.entry p).isOk

def isDirectory (fs : FileSystem) (p : Path) : Bool :=
  match fs.entry p with
  | .ok .directory => true
  | _ => false

def isFile (fs : FileSystem) (p : Path) : Bool :=
  match fs.entry p with
  | .ok (.file _ _) => true
  | _ => false

def read (fs : FileSystem) (p : Path) : Except FileError Bytes :=
  match fs.resolve p with
  | .ok (.entry l e) =>
    if !fs.allows .read l then .error .permissionDenied
    else
      match e with
      | .file content _ => .ok content
      | _ => .error .isDirectory
  | .ok (.free _) => .error .notFound
  | .error e => .error e

/-- Reads a file as text. -/
def readText (fs : FileSystem) (p : Path) : Except FileError String :=
  match fs.read p with
  | .ok content =>
    match Text.Utf8.decode content with
    | .ok s => .ok (String.ofList s)
    | .error _ => .error .notText
  | .error e => .error e

/-- The names of the entries right inside a location. -/
def childNames (fs : FileSystem) (l : Location) : List String :=
  fs.entries.filterMap fun e =>
    if e.1.length = l.length + 1 && e.1.take l.length = l then e.1.getLast? else none

/-- The names in a directory. -/
def list (fs : FileSystem) (p : Path) : Except FileError (List String) :=
  match fs.resolve p with
  | .ok (.entry l .directory) =>
    if !fs.allows .read l then .error .permissionDenied else .ok (fs.childNames l)
  | .ok (.entry _ _) => .error .notDirectory
  | .ok (.free _) => .error .notFound
  | .error e => .error e

/-- Writes a whole file, which is made if only it is missing. -/
def write (fs : FileSystem) (p : Path) (content : Bytes) : Except FileError FileSystem :=
  match fs.resolve p with
  | .ok (.entry l (.file _ executable)) =>
    if !fs.allows .write l then .error .permissionDenied else .ok (fs.overwrite l content executable)
  | .ok (.entry _ _) => .error .isDirectory
  | .ok (.free l) =>
    if !fs.allows .write l.dropLast then .error .permissionDenied else .ok (fs.create l content)
  | .error e => .error e

end FileSystem

end ModelForge
