import ModelForge.FileSystem.Basic
/-!
Discovery of the inputs of a batch: a file is the only one, a directory gives its model files in
the order of their names.
-/

namespace ModelForge

inductive BatchError
  | pathNotFound (path : Path)
  | notListed (path : Path) (cause : FileError)
  deriving DecidableEq, Repr

namespace BatchError

def message : BatchError → String
  | pathNotFound path => "path not found: " ++ path.text
  | notListed path cause => "failed to list " ++ path.text ++ ": " ++ cause.message

end BatchError

namespace Discovery

/-- The extension of model files, in any case. -/
def modelExtension : String := "json"

def isModel (fs : FileSystem) (p : Path) : Bool := fs.isFile p && p.hasExtension modelExtension

/-- The model files among the entries of a directory, in whatever order the names come. -/
def modelsIn (fs : FileSystem) (directory : Path) (names : List String) : List Path :=
  ((names.mergeSort fun a b => decide (a ≤ b)).map fun n => directory.join ⟨n⟩).filter (isModel fs)

def inputs (fs : FileSystem) (input : Path) : Except BatchError (List Path) :=
  if !fs.exists input then .error (.pathNotFound input)
  else if !fs.isDirectory input then .ok [input]
  else
    match fs.list input with
    | .ok names => .ok (modelsIn fs input names)
    | .error cause => .error (.notListed input cause)

end Discovery

end ModelForge
