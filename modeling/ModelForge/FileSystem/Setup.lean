import ModelForge.FileSystem.Basic
/-!
Building a file system up and taking parts of it away, and the difference of two file systems as
it shows below the directory that relative paths start from.
-/

namespace ModelForge.FileSystem

/-- Makes a directory and all those above it, as far as they are missing. -/
def makeDirectories (fs : FileSystem) (l : Location) : FileSystem :=
  (List.range l.length).foldl
    (fun fs n => let up := l.take (n + 1); if (fs.at? up).isSome then fs else fs.set up .directory) fs

/-- One step of a path, without looking at what lies there. -/
def descend (l : Location) (step : String) : Location :=
  if step = "." then l else if step = ".." then l.dropLast else l ++ [step]

/-- The location that a path names, without following links. -/
def locate (fs : FileSystem) (p : Path) : Location := (walkSteps p).foldl descend (startOf p fs.home)

def addDirectory (fs : FileSystem) (p : Path) : FileSystem := fs.makeDirectories (fs.locate p)

/-- Puts an entry at a path; the directories above are made. -/
def add (fs : FileSystem) (p : Path) (e : Entry) : FileSystem :=
  let l := fs.locate p
  (fs.makeDirectories l.dropLast).set l e

/-- Writes a file; one that is there keeps its mode. -/
def addFile (fs : FileSystem) (p : Path) (content : Bytes) : FileSystem :=
  let fs := fs.makeDirectories (fs.locate p).dropLast
  (fs.write p content).toOption.getD fs

/-- Removes an entry with everything below it. -/
def remove (fs : FileSystem) (p : Path) : FileSystem :=
  let l := fs.locate p
  { fs with entries := fs.entries.filter fun e => e.1.take l.length ≠ l }

/-- An entry as a difference names it: relative, a directory with a slash at its end. -/
def nameBelow (home : Location) (l : Location) (e : Entry) : Option String :=
  if l.take home.length = home && l.length > home.length then
    let name := "/".intercalate (l.drop home.length)
    match e with
    | .file _ _ => some name
    | .directory => some (name ++ "/")
    | .link _ => none
  else none

/-- A difference in one entry. -/
inductive Change
  | removed
  | directory
  | content (bytes : Bytes)
  deriving DecidableEq, Repr

/-- The entries below `home` that differ from an earlier file system. -/
def changesFrom (before now : FileSystem) : List (String × Change) :=
  let named (fs : FileSystem) : List (String × Entry) :=
    fs.entries.filterMap fun (l, e) => (nameBelow fs.home l e).map (·, e)
  let old := named before
  let new := named now
  let gone := old.filterMap fun (n, _) => if (new.find? (·.1 == n)).isSome then none else some (n, Change.removed)
  let changed := new.filterMap fun (n, e) =>
    let same := match (old.find? (·.1 == n)).map (·.2), e with
      | some (.file c _), .file c' _ => c == c'
      | some .directory, .directory => true
      | _, _ => false
    if same then none
    else match e with
      | .file c _ => some (n, .content c)
      | _ => some (n, .directory)
  gone ++ changed

end ModelForge.FileSystem
