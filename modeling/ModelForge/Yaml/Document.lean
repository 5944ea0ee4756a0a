import ModelForge.Yaml.Event
import ModelForge.Yaml.Token.Scanner
/-!
A YAML document as the list of its nodes in order, with each alias bound to the anchor that
precedes it. A text that breaks off keeps the nodes before the break, and the reason.
-/

namespace ModelForge.Yaml

inductive NodeEvent
  | alias (anchor : Nat)
  | scalar (tag : Option String) (text : String) (style : ScalarStyle)
  | sequenceStart (tag : Option String)
  | sequenceEnd
  | mappingStart (tag : Option String)
  | mappingEnd
  /-- Stands alone in a text without any document. -/
  | void
  deriving DecidableEq, Repr, Inhabited

/-- Why reading stops at the structure of the text. -/
inductive Break
  | problem (p : Problem)
  | unknownAnchor (mark : Mark)
  deriving DecidableEq, Repr

structure Document where
  events  : Array (NodeEvent × Mark) := #[]
  /-- Where the node of an anchor begins. -/
  anchors : List (Nat × Nat) := []
  broken  : Option Break := none

/-- A document while it is put together: the number that each anchor's name stands for now. -/
structure DocumentBuilder where
  document : Document := {}
  names    : List (String × Nat) := []

namespace DocumentBuilder

def push (b : DocumentBuilder) (e : NodeEvent) (m : Mark) : DocumentBuilder :=
  { b with document := { b.document with events := b.document.events.push (e, m) } }

/-- Gives the next node's anchor a number, which is the number of names known so far. -/
def anchor (b : DocumentBuilder) : Option String → DocumentBuilder
  | none => b
  | some name =>
    let n := b.names.length
    { names := (name, n) :: b.names.filter (·.1 ≠ name)
      document := { b.document with
        anchors := (n, b.document.events.size) :: b.document.anchors.filter (·.1 ≠ n) } }

/-- Takes the events of the first document. Returns what follows it. -/
def build (b : DocumentBuilder) (problem : Option Problem) : List Event → Document × Option (List Event)
  | [] =>
    match problem with
    | some p => ({ b.document with broken := some (.problem p) }, some [])
    | none => (b.document, none)
  | e :: rest =>
    match e.kind with
    | .streamStart | .documentStart => build b problem rest
    | .streamEnd =>
      if b.document.events.isEmpty then ((b.push .void e.mark).document, none) else (b.document, none)
    | .documentEnd => (b.document, some rest)
    | .alias name =>
      match b.names.find? (·.1 == name) with
      | some (_, n) => build (b.push (.alias n) e.mark) problem rest
      | none => ({ b.document with broken := some (.unknownAnchor e.mark) }, some rest)
    | .scalar anchor tag text style => build ((b.anchor anchor).push (.scalar tag text style) e.mark) problem rest
    | .sequenceStart anchor tag => build ((b.anchor anchor).push (.sequenceStart tag) e.mark) problem rest
    | .sequenceEnd => build (b.push .sequenceEnd e.mark) problem rest
    | .mappingStart anchor tag => build ((b.anchor anchor).push (.mappingStart tag) e.mark) problem rest
    | .mappingEnd => build (b.push .mappingEnd e.mark) problem rest

end DocumentBuilder

/-- The first document of a text, and whether anything follows it. -/
def Document.ofText (text : String) : Document × Bool :=
  let (ts, tokenProblem) := tokens text
  let (events, problem) := Event.ofTokens ts tokenProblem
  let (document, rest) := DocumentBuilder.build {} problem events
  let more :=
    match rest with
    | none => false
    | some (e :: _) => e.kind != .streamEnd
    | some [] => problem.isSome
  (document, more)

end ModelForge.Yaml
