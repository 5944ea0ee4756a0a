/-!
Paths of files, as the text that names them. A path is a leading part (the root `/`, a first `.`
or nothing) and segments between slashes; empty segments and `.` name nothing new. Reading a
path never changes its text, so that what is reported is what was given.
-/

namespace ModelForge

structure Path where
  text : String
  deriving DecidableEq, Repr, Inhabited

namespace Path

/-- The parts of a text between slashes, empty ones included. -/
def splitSlashes : List Char → List (List Char)
  | [] => [[]]
  | c :: rest =>
    if c = '/' then [] :: splitSlashes rest
    else
      match splitSlashes rest with
      | [] => [[c]]
      | s :: more => (c :: s) :: more

def joinSlashes : List (List Char) → List Char
  | [] => []
  | [s] => s
  | s :: t :: more => s ++ '/' :: joinSlashes (t :: more)

def isAbsolute (p : Path) : Bool := p.text.toList.head? = some '/'

/-- The length of the leading part: one character for the root or a first `.`. -/
def leadingLength (p : Path) : Nat :=
  match p.text.toList with
  | ['.'] => 1
  | '.' :: '/' :: _ => 1
  | '/' :: _ => 1
  | _ => 0

def leading (p : Path) : List Char := p.text.toList.take p.leadingLength

/-- The segments behind the leading part. -/
def segments (p : Path) : List (List Char) := splitSlashes (p.text.toList.drop p.leadingLength)

/-- Segments that stand for no step of their own. -/
def isIdle (s : List Char) : Bool := s = [] || s = ['.']

/-- The segments that name something, `..` included. -/
def steps (p : Path) : List (List Char) := p.segments.filter (!isIdle ·)

/-- The segments without the idle ones at their end. -/
def trimIdle (segs : List (List Char)) : List (List Char) :=
  (segs.reverse.dropWhile isIdle).reverse

/-- The path one step up, as a beginning of the text; the root and the empty path have none. -/
def parent? (p : Path) : Option Path :=
  match (trimIdle p.segments).reverse with
  | _ :: front => some ⟨String.ofList (p.leading ++ joinSlashes (trimIdle front.reverse))⟩
  | [] => if p.leading = ['.'] then some ⟨""⟩ else none

/-- The last step, unless it is `..`. -/
def fileName? (p : Path) : Option (List Char) :=
  match p.steps.getLast? with
  | some s => if s = ['.', '.'] then none else some s
  | none => none

/-- Cuts a name at its last dot: what stands before and behind. -/
def cutAtLastDot (name : List Char) : Option (List Char × List Char) :=
  let after := (name.reverse.takeWhile (· ≠ '.')).reverse
  if after.length = name.length then none
  else some (name.take (name.length - after.length - 1), after)

/-- A name without the last dot and what follows it; a first dot alone does not count. -/
def stemOf (name : List Char) : List Char :=
  match cutAtLastDot name with
  | some (before, _) => if before = [] then name else before
  | none => name

def extensionOf? (name : List Char) : Option (List Char) :=
  match cutAtLastDot name with
  | some (before, after) => if before = [] then none else some after
  | none => none

def stem? (p : Path) : Option (List Char) := p.fileName?.map stemOf

def extension? (p : Path) : Option (List Char) := p.fileName?.bind extensionOf?

/-- Whether the extension is this one, up to the case of ASCII letters. -/
def hasExtension (p : Path) (e : String) : Bool :=
  match p.extension? with
  | some x => x.map Char.toLower == e.toList
  | none => false

/-- A path below a directory; an absolute path replaces it. -/
def join (dir p : Path) : Path :=
  if p.isAbsolute then p
  else if dir.text.isEmpty || dir.text.toList.getLast? = some '/' then ⟨dir.text ++ p.text⟩
  else ⟨dir.text ++ "/" ++ p.text⟩

end Path

end ModelForge
