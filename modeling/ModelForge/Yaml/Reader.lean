import ModelForge.Yaml.Scalar
import ModelForge.Json.Basic
/-!
Reading values out of a YAML document. A reader stands at a place in the list of nodes; at an
alias it reads the anchored node instead, and the number of such jumps is bounded, as is the
depth of nesting. A misread value is reported with its path and the mark where it begins.
-/

namespace ModelForge.Yaml

/-- The way from the root of a document to a node. -/
inductive NodePath
  | root
  | item (parent : NodePath) (index : Nat)
  | member (parent : NodePath) (key : String)
  | unnamed (parent : NodePath)
  deriving DecidableEq, Repr

namespace NodePath

def describe : NodePath → String
  | root => "."
  | item parent index => parent.describe ++ s!"[{index}]"
  | member parent key => (if parent = root then "" else parent.describe ++ ".") ++ key
  | unnamed parent => (if parent = root then "" else parent.describe ++ ".") ++ "?"

end NodePath

inductive Error
  | broken (b : Break)
  | endOfStream
  | moreThanOneDocument
  | recursionLimit (mark : Mark)
  | repetitionLimit
  /-- The document is well-formed, but its value is not the one wanted. -/
  | value (text : String) (path : NodePath) (mark : Mark)
  deriving DecidableEq, Repr

namespace Error

/-- The place of an error; the very start of the text goes without saying. -/
def place (m : Mark) : String := if m.isOrigin then "" else " at " ++ m.describe

def message : Error → String
  | broken (.problem p) => p.message
  | broken (.unknownAnchor m) => "unknown anchor" ++ place m
  | endOfStream => "EOF while parsing a value"
  | moreThanOneDocument => "deserializing from YAML containing more than one document is not supported"
  | recursionLimit m => "recursion limit exceeded" ++ place m
  | repetitionLimit => "repetition limit exceeded"
  | value text path m => (if path = .root then "" else path.describe ++ ": ") ++ text ++ place m

end Error

/-- Where a reader stands: a place in the list of nodes, the way there, the levels of nesting that
are left, and the jumps made. -/
structure Place where
  index : Nat
  path  : NodePath
  depth : Nat
  jumps : Nat

/-- What was read, the place behind it and the jumps made. -/
structure Reading (α : Type) where
  value : α
  next  : Nat
  jumps : Nat

namespace Document

def at? (d : Document) (i : Nat) : Except Error (NodeEvent × Mark) :=
  match d.events[i]? with
  | some e => .ok e
  | none => .error (d.broken.elim .endOfStream .broken)

/-- The place of an anchored node. -/
def jump (d : Document) (anchor : Nat) (p : Place) : Except Error Place :=
  if p.jumps + 1 > d.events.size * 100 then .error .repetitionLimit
  else
    match d.anchors.find? (·.1 == anchor) with
    | some (_, i) => .ok { p with index := i, jumps := p.jumps + 1 }
    | none => .error .endOfStream

/-- A level deeper. -/
def descend (p : Place) (mark : Mark) : Except Error Nat :=
  match p.depth with
  | 0 => .error (.recursionLimit mark)
  | depth + 1 => .ok depth

/-- How a node is called where something else was expected. -/
def unexpected (e : NodeEvent) (expected : String) : String :=
  match e with
  | .scalar tag text style =>
    match Meaning.ofScalar tag text style with
    | .ok m => "invalid type: " ++ m.describe ++ ", expected " ++ expected
    | .error m => m.message
  | .sequenceStart _ => "invalid type: sequence, expected " ++ expected
  | .mappingStart _ => "invalid type: map, expected " ++ expected
  | _ => "EOF while parsing a value"

def misread {α : Type} (p : Place) (mark : Mark) (text : String) : Except Error (Reading α) :=
  .error (.value text p.path mark)

/-- Reads a scalar as its text, whatever it means. -/
def readText (fuel : Nat) (d : Document) (expected : String) (p : Place) : Except Error (Reading String) :=
  match fuel with
  | 0 => .error .endOfStream
  | fuel + 1 => do
    let (e, mark) ← d.at? p.index
    match e with
    | .alias a => do
      let q ← d.jump a p
      let r ← readText fuel d expected q
      .ok ⟨r.value, p.index + 1, r.jumps⟩
    | .scalar _ text _ => .ok ⟨text, p.index + 1, p.jumps⟩
    | .void => .error .endOfStream
    | other => misread p mark (unexpected other expected)

/-- A tag of the document's own makes a node a variant, for which there is no JSON. -/
def isVariantTag (tag : Option String) : Bool := tag.any (·.startsWith "!")

def toJson (m : Meaning) : Option Json :=
  match m with
  | .null => some .null
  | .bool b => some (.bool b)
  | .int n => some (.num (.int n))
  | .wide _ _ => none
  | .real x => some (.num (.real x))
  | .infinite _ => some .null
  | .notANumber => some .null
  | .text s => some (.str s)

/-- The path of a member's value; a key that is no scalar has no name. -/
def memberPath (d : Document) (p : Place) (i : Nat) : NodePath :=
  match d.events[i]? with
  | some (.scalar _ text _, _) => .member p.path text
  | _ => .unnamed p.path

mutual

/-- Reads a node as a JSON value. -/
def readJson (fuel : Nat) (d : Document) (p : Place) : Except Error (Reading Json) :=
  match fuel with
  | 0 => .error .endOfStream
  | fuel + 1 => do
    let (e, mark) ← d.at? p.index
    let variant := "invalid type: enum, expected any valid JSON value"
    match e with
    | .alias a => do
      let q ← d.jump a p
      let r ← readJson fuel d q
      .ok ⟨r.value, p.index + 1, r.jumps⟩
    | .scalar tag text style =>
      if isVariantTag tag then misread p mark variant
      else
        match Meaning.ofScalar tag text style with
        | .error m => misread p mark m.message
        | .ok m =>
          match toJson m with
          | some v => .ok ⟨v, p.index + 1, p.jumps⟩
          | none => misread p mark "JSON number out of range"
    | .sequenceStart tag =>
      if isVariantTag tag then misread p mark variant
      else do
        let depth ← descend p mark
        let r ← readJsonItems fuel d { p with index := p.index + 1, depth } 0 []
        .ok ⟨.arr r.value, r.next, r.jumps⟩
    | .mappingStart tag =>
      if isVariantTag tag then misread p mark variant
      else do
        let depth ← descend p mark
        let r ← readJsonMembers fuel d { p with index := p.index + 1, depth } "a string key" []
        .ok ⟨.obj r.value, r.next, r.jumps⟩
    | .void => .ok ⟨.null, p.index + 1, p.jumps⟩
    | .sequenceEnd | .mappingEnd => .error .endOfStream

/-- Reads the items of a sequence and passes its end. -/
def readJsonItems (fuel : Nat) (d : Document) (p : Place) (index : Nat) (acc : List Json) : Except Error (Reading (List Json)) :=
  match fuel with
  | 0 => .error .endOfStream
  | fuel + 1 => do
    let (e, _) ← d.at? p.index
    if e = .sequenceEnd then .ok ⟨acc.reverse, p.index + 1, p.jumps⟩
    else
      let r ← readJson fuel d { p with path := .item p.path index }
      readJsonItems fuel d { p with index := r.next, jumps := r.jumps } (index + 1) (r.value :: acc)

/-- Reads the members of a mapping and passes its end; a key counts as its text. -/
def readJsonMembers (fuel : Nat) (d : Document) (p : Place) (expected : String) (acc : List (String × Json)) :
    Except Error (Reading (List (String × Json))) :=
  match fuel with
  | 0 => .error .endOfStream
  | fuel + 1 => do
    let (e, _) ← d.at? p.index
    if e = .mappingEnd then .ok ⟨acc, p.index + 1, p.jumps⟩
    else
      let k ← readText fuel d expected p
      let r ← readJson fuel d
        { index := k.next, path := memberPath d p p.index, depth := p.depth, jumps := k.jumps }
      readJsonMembers fuel d { p with index := r.next, jumps := r.jumps } "a string"
        (Keyed.put k.value r.value acc)

end

/-- Levels of nesting that a document may have. -/
def depthLimit : Nat := 128

/-- Enough steps for every way through a document. -/
def fuel (d : Document) : Nat := (depthLimit + 2) * (2 * d.events.size + 4)

/-- Reads a text that holds one document, from its root. -/
def readAll {α : Type} (text : String) (read : Document → Place → Except Error (Reading α)) : Except Error α := do
  let (d, more) := Document.ofText text
  let r ← read d ⟨0, .root, depthLimit, 0⟩
  match d.broken with
  | some b => .error (.broken b)
  | none => if more then .error .moreThanOneDocument else .ok r.value

end Document

/-- The JSON value of a YAML text. -/
def parse (text : String) : Except Error Json :=
  Document.readAll text fun d p => d.readJson d.fuel p

end ModelForge.Yaml
