import ModelForge.FileSystem.Basic
import ModelForge.Yaml.Reader
import ModelForge.Text.Letters
/-!
Configuration files: a YAML mapping with five fields, none of them required. A field left out or
null is not set; every scalar counts as its text.
-/

namespace ModelForge

structure ConfigFile where
  language  : Option String := none
  output    : Option Path := none
  grammar   : Option Path := none
  program   : Option Path := none
  arguments : List String := []
  deriving DecidableEq, Repr

namespace ConfigFile

open Yaml

inductive Field
  | language
  | output
  | grammar
  | program
  | arguments
  deriving DecidableEq, Repr

namespace Field

def name : Field → String
  | language => "language"
  | output => "output"
  | grammar => "grammar"
  | program => "quicktype"
  | arguments => "quicktype_args"

def all : List Field := [language, output, grammar, program, arguments]

def ofName? (s : String) : Option Field := all.find? (·.name = s)

/-- What a value of the field must be. -/
def expected : Field → String
  | language => "a string"
  | arguments => "a sequence"
  | _ => "path string"

end Field

def unknownField (name : String) : String :=
  "unknown field `" ++ name ++ "`, expected one of " ++
    ", ".intercalate (Field.all.map fun f => "`" ++ f.name ++ "`")

def duplicateField (f : Field) : String := "duplicate field `" ++ f.name ++ "`"

/-- Fields read so far. -/
structure Partial where
  config : ConfigFile := {}
  seen   : List Field := []

/-- A plain empty scalar stands for an empty collection. -/
def isEmptyNode : NodeEvent → Bool
  | .scalar _ text style => text = "" && style = .plain
  | .void => true
  | _ => false

/-- Whether a node is null, where null means not set. A misfit of the null tag is told. -/
def isUnset : NodeEvent → Except Misfit Bool
  | .scalar tag text style =>
    if style ≠ .plain then .ok false
    else
      match tag with
      | some t =>
        if t = coreTag "null" then if isNullWord text then .ok true else .error ⟨text, "null"⟩
        else .ok false
      | none => .ok (text = "" || isNullWord text)
  | .void => .ok true
  | _ => .ok false

/-- Reads a text that may be null. `whole` is the mapping that it belongs to. -/
def readOptional (fuel : Nat) (d : Yaml.Document) (expected : String) (whole : NodePath × Mark) (p : Place) :
    Except Error (Reading (Option String)) :=
  match fuel with
  | 0 => .error .endOfStream
  | fuel + 1 => do
    let (e, _) ← d.at? p.index
    match e with
    | .alias a => do
      let q ← d.jump a p
      let r ← readOptional fuel d expected whole q
      .ok ⟨r.value, p.index + 1, r.jumps⟩
    | _ =>
      match isUnset e with
      | .error m => .error (.value m.message whole.1 whole.2)
      | .ok true => .ok ⟨none, p.index + 1, p.jumps⟩
      | .ok false => do
        let r ← Yaml.Document.readText (fuel + 1) d expected p
        .ok ⟨some r.value, r.next, r.jumps⟩

/-- Reads the texts of a sequence and passes its end. -/
def readTextItems (fuel : Nat) (d : Yaml.Document) (p : Place) (index : Nat) (acc : List String) :
    Except Error (Reading (List String)) :=
  match fuel with
  | 0 => .error .endOfStream
  | fuel + 1 => do
    let (e, _) ← d.at? p.index
    if e = .sequenceEnd then .ok ⟨acc.reverse, p.index + 1, p.jumps⟩
    else
      let r ← Yaml.Document.readText (fuel + 1) d "a string" { p with path := .item p.path index }
      readTextItems fuel d { p with index := r.next, jumps := r.jumps } (index + 1) (r.value :: acc)

def readTexts (fuel : Nat) (d : Yaml.Document) (p : Place) : Except Error (Reading (List String)) :=
  match fuel with
  | 0 => .error .endOfStream
  | fuel + 1 => do
    let (e, mark) ← d.at? p.index
    match e with
    | .alias a => do
      let q ← d.jump a p
      let r ← readTexts fuel d q
      .ok ⟨r.value, p.index + 1, r.jumps⟩
    | .sequenceStart _ => do
      let depth ← Yaml.Document.descend p mark
      readTextItems fuel d { p with index := p.index + 1, depth } 0 []
    | other =>
      if isEmptyNode other then .ok ⟨[], p.index + 1, p.jumps⟩
      else Yaml.Document.misread p mark (Yaml.Document.unexpected other Field.arguments.expected)

/-- Reads the value of a field. -/
def readField (fuel : Nat) (d : Yaml.Document) (f : Field) (whole : NodePath × Mark) (c : ConfigFile) (p : Place) :
    Except Error (Reading ConfigFile) := do
  match f with
  | .arguments =>
    let r ← readTexts fuel d p
    .ok ⟨{ c with arguments := r.value }, r.next, r.jumps⟩
  | f =>
    let r ← readOptional fuel d f.expected whole p
    let path := r.value.map Path.mk
    let c := match f with
      | .language => { c with language := r.value }
      | .output => { c with output := path }
      | .grammar => { c with grammar := path }
      | _ => { c with program := path }
    .ok ⟨c, r.next, r.jumps⟩

/-- The mark of a key, or of the node that an alias names as the key. -/
def keyMark (d : Yaml.Document) (p : Place) : Mark :=
  match d.events[p.index]? with
  | some (.alias a, mark) =>
    (((d.anchors.find? (·.1 == a)).bind fun x => d.events[x.2]?).map (·.2)).getD mark
  | some (_, mark) => mark
  | none => {}

/-- Reads the fields of the mapping and passes its end. -/
def readFields (fuel : Nat) (d : Yaml.Document) (whole : NodePath × Mark) (p : Place) (acc : Partial) :
    Except Error (Reading ConfigFile) :=
  match fuel with
  | 0 => .error .endOfStream
  | fuel + 1 => do
    let (e, _) ← d.at? p.index
    if e = .mappingEnd then .ok ⟨acc.config, p.index + 1, p.jumps⟩
    else
      let k ← Yaml.Document.readText (fuel + 1) d "field identifier" p
      match Field.ofName? k.value with
      | none => .error (.value (unknownField k.value) p.path (keyMark d p))
      | some f =>
        if acc.seen.contains f then .error (.value (duplicateField f) whole.1 whole.2)
        else
          let path := Yaml.Document.memberPath d p p.index
          let r ← readField (fuel + 1) d f whole acc.config ⟨k.next, path, p.depth, k.jumps⟩
          readFields fuel d whole { p with index := r.next, jumps := r.jumps } ⟨r.value, f :: acc.seen⟩

def readConfig (fuel : Nat) (d : Yaml.Document) (p : Place) : Except Error (Reading ConfigFile) :=
  match fuel with
  | 0 => .error .endOfStream
  | fuel + 1 => do
    let (e, mark) ← d.at? p.index
    match e with
    | .alias a => do
      let q ← d.jump a p
      let r ← readConfig fuel d q
      .ok ⟨r.value, p.index + 1, r.jumps⟩
    | .mappingStart _ => do
      let depth ← Yaml.Document.descend p mark
      readFields fuel d (p.path, mark) { p with index := p.index + 1, depth } {}
    | other =>
      if isEmptyNode other then .ok ⟨{}, p.index + 1, p.jumps⟩
      else Yaml.Document.misread p mark (Yaml.Document.unexpected other "struct ConfigFile")

/-- Reads a configuration; a blank text sets nothing. -/
def parse (text : String) : Except Error ConfigFile :=
  if (Text.trim text.toList).isEmpty then .ok {}
  else Yaml.Document.readAll text fun d p => readConfig d.fuel d p

end ConfigFile

/-- Why a configuration cannot be used. -/
inductive ConfigError
  | unreadable (path : Path) (cause : FileError)
  | malformed (path : Path) (cause : Yaml.Error)
  deriving DecidableEq, Repr

namespace ConfigError

def message : ConfigError → String
  | unreadable path cause => "failed to read config file " ++ path.text ++ ": " ++ cause.message
  | malformed path cause => "failed to parse config file " ++ path.text ++ ": " ++ cause.message

end ConfigError

def ConfigFile.load (fs : FileSystem) (path : Path) : Except ConfigError ConfigFile :=
  match fs.readText path with
  | .error cause => .error (.unreadable path cause)
  | .ok text =>
    match ConfigFile.parse text with
    | .error cause => .error (.malformed path cause)
    | .ok c => .ok c

end ModelForge
