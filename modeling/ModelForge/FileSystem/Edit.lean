import ModelForge.FileSystem.Basic
/-!
Changes of single entries: making and removing directories, removing, renaming, copying and linking
files. Each either succeeds in whole or says why it cannot.
-/

namespace ModelForge.FileSystem

/-- A path without the slashes at its end. -/
def bare (p : Path) : Path :=
  let s := (p.text.toList.reverse.dropWhile (· = '/')).reverse
  if s.isEmpty then p else ⟨String.ofList s⟩

/-- A file system without a location and all that lies below it. -/
def without (fs : FileSystem) (l : Location) : FileSystem :=
  { fs with
    entries := fs.entries.filter fun e => e.1.take l.length ≠ l
    denied := fs.denied.filter fun d => d.1.take l.length ≠ l }

/-- Whether names may come and go where a location lies. -/
def allowsChange (fs : FileSystem) (l : Location) : Bool := fs.allows .write l.dropLast

/-- A change of the names where a location lies, if it is allowed. -/
def changing (fs : FileSystem) (l : Location) (changed : FileSystem) : Except FileError FileSystem :=
  if fs.allowsChange l then .ok changed else .error .permissionDenied

def makeDirectory (fs : FileSystem) (p : Path) : Except FileError FileSystem :=
  match fs.resolveLink (bare p) with
  | .ok (.free l) => fs.changing l (fs.set l .directory)
  | .ok (.entry _ _) => .error .alreadyThere
  | .error e => .error e

def removeDirectory (fs : FileSystem) (p : Path) : Except FileError FileSystem :=
  match fs.resolveLink (bare p) with
  | .ok (.entry l .directory) => if fs.childNames l = [] then fs.changing l (fs.without l) else .error .notEmpty
  | .ok (.entry _ _) => .error .notDirectory
  | .ok (.free _) => .error .notFound
  | .error e => .error e

/-- Removes what is not a directory. -/
def removeFile (fs : FileSystem) (p : Path) : Except FileError FileSystem :=
  match fs.resolveLink p with
  | .ok (.entry _ .directory) => .error .isDirectory
  | .ok (.entry l _) => fs.changing l (fs.without l)
  | .ok (.free _) => .error .notFound
  | .error e => .error e

/-- Puts what lies at and below one location at and below another, too. -/
def duplicate (fs : FileSystem) (source destination : Location) : FileSystem :=
  fs.entries.foldl
    (fun fs e => if e.1.take source.length = source then fs.set (destination ++ e.1.drop source.length) e.2 else fs) fs

def makeLink (fs : FileSystem) (target p : Path) : Except FileError FileSystem :=
  match fs.resolveLink p with
  | .ok (.free l) => fs.changing l (fs.set l (.link target))
  | .ok (.entry _ _) => .error .alreadyThere
  | .error e => .error e

/-- Sets whether a file can be run. -/
def setExecutable (fs : FileSystem) (p : Path) (executable : Bool) : Except FileError FileSystem :=
  match fs.resolve p with
  | .ok (.entry l (.file content _)) => .ok (fs.set l (.file content executable))
  | .ok (.entry _ _) => .ok fs
  | .ok (.free _) => .error .notFound
  | .error e => .error e

end ModelForge.FileSystem
