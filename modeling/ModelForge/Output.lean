import ModelForge.Name
import ModelForge.Path
/-!
Where generated files go: into a given directory, else beside the input, under the type's name
with the extension of the language.
-/

namespace ModelForge

/-- The canonical name of a type that is a valid identifier. -/
structure TypeName where
  text : String
  deriving DecidableEq, Repr

namespace TypeName

/-- The canonical form of a file's stem, if it is an identifier. -/
def ofPath? (p : Path) : Option TypeName :=
  match p.stem? with
  | some stem =>
    let name := Name.canonical (String.ofList stem)
    if Name.isIdentifier name then some ⟨name⟩ else none
  | none => none

end TypeName

namespace Output

/-- The given directory, else that of the input; a bare name lies in `.`. -/
def directory (input : Path) (given : Option Path) : Path :=
  match given with
  | some dir => dir
  | none =>
    match input.parent? with
    | some dir => if dir.text.isEmpty then ⟨"."⟩ else dir
    | none => ⟨"."⟩

def fileName (name extension : String) : Path := ⟨name ++ "." ++ extension⟩

def path (input : Path) (given : Option Path) (name extension : String) : Path :=
  (directory input given).join (fileName name extension)

end Output

end ModelForge
