import ModelForge.CommandLine.Tool
/-!
The program. What the command line and the settings name is read into a file system value, the tool
runs on that value, and what it has changed in it is written back.
-/

namespace ModelForge.Program

/-- Reads what lies at a path into a file system, directories to some depth. A path where nothing lies
leaves the file system as it is. -/
def capture (depth : Nat) (fs : FileSystem) (path : Path) : IO FileSystem := do
  let file := (← IO.currentDir) / path.text
  if ← file.isDir then
    let fs := fs.addDirectory path
    match depth with
    | 0 => return fs
    | depth + 1 => (← file.readDir).foldlM (fun fs entry => capture depth fs (path.join ⟨entry.fileName⟩)) fs
  else if ← file.pathExists then
    let content := (← IO.FS.readBinFile file).toList
    -- A file that names its interpreter counts as one that can be run.
    return fs.add path (.file content (content.take 2 = "#!".toUTF8.toList))
  else return fs

/-- The paths that settings name. -/
def pathsOf (s : Settings) : List Path := s.output.toList ++ s.grammar.toList ++ [s.program]

/-- The file system that a run looks at: the named files, and the directory it starts in. -/
def surroundings (args : List String) (env : Environment) : IO FileSystem := do
  let home := (Path.splitSlashes (← IO.currentDir).toString.toList).filter (· ≠ [])
  let fs : FileSystem := { home := home.map String.ofList }
  match CommandLine.parse args with
  | .ok (.run a) =>
    let fs ← capture 0 fs ⟨"."⟩
    let fs ← a.config.toList.foldlM (capture 0) fs
    let input := match a.mode with
      | .validate input => input
      | .generate input => input
    let named := match a.settings env fs with
      | .ok s => pathsOf s
      | .error _ => []
    (input :: input.parent?.toList ++ named).foldlM (capture 1) fs
  | _ => return fs

/-- The path of a location. -/
def pathTo (l : Location) : String := "/" ++ "/".intercalate l

/-- Writes back what is new or different. -/
def restore (before after : FileSystem) : IO Unit := do
  for (l, _) in before.entries do
    if (after.at? l).isNone then IO.FS.removeFile (pathTo l)
  for (l, entry) in after.entries do
    if before.at? l ≠ some entry then
      match entry with
      | .file content _ => IO.FS.writeBinFile (pathTo l) ⟨content.toArray⟩
      | .directory => IO.FS.createDirAll (pathTo l)
      | .link _ => pure ()

def environment : IO Environment := do
  [Environment.program, Environment.grammar].filterMapM fun name => do
    return (← IO.getEnv name).map fun value => (name, value)

end ModelForge.Program

/-- Runs the tool once. -/
def main (args : List String) : IO UInt32 := do
  let env ← ModelForge.Program.environment
  let fs ← ModelForge.Program.surroundings args env
  let run := ModelForge.CommandLine.main args env fs
  (← IO.getStdout).putStr run.output
  ModelForge.Program.restore fs run.files
  if let some message := run.diagnostic then IO.eprintln message
  return UInt32.ofNat run.code
