import ModelForge.Yaml.Token
/-!
The events of a YAML text: the beginnings and ends of documents, sequences and mappings, and the
scalars and aliases between them. `ofTokens` derives them from the tokens by a machine that keeps
a stack of what is to come; an empty scalar stands wherever a node is left out.
-/

namespace ModelForge.Yaml

inductive EventKind
  | streamStart
  | streamEnd
  | documentStart
  | documentEnd
  | alias (name : String)
  | scalar (anchor tag : Option String) (text : String) (style : ScalarStyle)
  | sequenceStart (anchor tag : Option String)
  | sequenceEnd
  | mappingStart (anchor tag : Option String)
  | mappingEnd
  deriving DecidableEq, Repr, Inhabited

structure Event where
  kind : EventKind
  mark : Mark
  deriving DecidableEq, Repr, Inhabited

/-- What the machine expects next. -/
inductive Expect
  | streamStart
  | documentStart (implicit : Bool)
  | documentContent
  | documentEnd
  | blockNode
  | blockSequenceEntry (first : Bool)
  | indentlessSequenceEntry
  | blockMappingKey (first : Bool)
  | blockMappingValue
  | flowSequenceEntry (first : Bool)
  | flowPairKey
  | flowPairValue
  | flowPairEnd
  | flowMappingKey (first : Bool)
  | flowMappingValue
  | flowMappingEmptyValue
  | finished
  deriving DecidableEq, Repr

/-- The machine: the tokens left and the problem behind them, what it expects now and later, the
marks of the collections around, and the tag handles of the document. -/
structure EventMachine where
  tokens  : List Token
  problem : Problem
  state   : Expect := .streamStart
  states  : List Expect := []
  marks   : List Mark := []
  handles : List (String × String) := []

namespace EventMachine

def peek (m : EventMachine) : Except Problem Token :=
  match m.tokens with
  | t :: _ => .ok t
  | [] => .error m.problem

def skip (m : EventMachine) : EventMachine := { m with tokens := m.tokens.drop 1 }

def later (m : EventMachine) (e : Expect) : EventMachine := { m with states := e :: m.states }

def goto (m : EventMachine) (e : Expect) : EventMachine := { m with state := e }

/-- Takes up what was left for later. -/
def resume (m : EventMachine) : EventMachine :=
  { m with state := m.states.headD .finished, states := m.states.drop 1 }

def remember (m : EventMachine) (k : Mark) : EventMachine := { m with marks := k :: m.marks }

def forget (m : EventMachine) : EventMachine := { m with marks := m.marks.drop 1 }

/-- The problem with a token inside the collection that began last. -/
def failInside {α : Type} (m : EventMachine) (doing : String) (t : Token) (problem : String) : Except Problem α :=
  .error { problem, mark := t.start, context := some (doing, m.marks.headD {}) }

abbrev Step := Except Problem (Event × EventMachine)

def emit (m : EventMachine) (k : EventKind) (mark : Mark) : Step := .ok (⟨k, mark⟩, m)

/-- The scalar of a node that is left out. -/
def emitEmpty (m : EventMachine) (mark : Mark) : Step := m.emit (.scalar none none "" .plain) mark

/-- The handles that every document has. -/
def defaultHandles : List (String × String) := [("!", "!"), ("!!", "tag:yaml.org,2002:")]

/-- Reads the directives before a document. -/
def readDirectives (fuel : Nat) (m : EventMachine) (versionSeen : Bool) : Except Problem EventMachine :=
  match fuel with
  | 0 => .ok m
  | fuel + 1 => do
    let t ← m.peek
    match t.kind with
    | .versionDirective major minor =>
      if versionSeen then .error { problem := "found duplicate %YAML directive", mark := t.start }
      else if major ≠ 1 || (minor ≠ 1 && minor ≠ 2) then
        .error { problem := "found incompatible YAML document", mark := t.start }
      else readDirectives fuel m.skip true
    | .tagDirective handle start =>
      if m.handles.any (·.1 == handle) then
        .error { problem := "found duplicate %TAG directive", mark := t.start }
      else readDirectives fuel { m.skip with handles := m.handles ++ [(handle, start)] } versionSeen
    | _ =>
      let added := defaultHandles.filter fun d => !m.handles.any (·.1 == d.1)
      .ok { m with handles := m.handles ++ added }

def skipDocumentEnds (m : EventMachine) : EventMachine :=
  { m with tokens := m.tokens.dropWhile (·.kind == .documentEnd) }

def startDocument (m : EventMachine) (implicit : Bool) : Step := do
  let m := if implicit then m else m.skipDocumentEnds
  let t ← m.peek
  let explicit : Bool :=
    match t.kind with
    | .versionDirective .. | .tagDirective .. | .documentStart => true
    | _ => false
  if t.kind = .streamEnd then (m.goto .finished).skip.emit .streamEnd t.start
  else if implicit && !explicit then
    let m ← m.readDirectives 1 false
    ((m.later .documentEnd).goto .blockNode).emit .documentStart t.start
  else
    let m ← m.readDirectives (m.tokens.length + 1) false
    let u ← m.peek
    if u.kind ≠ .documentStart then
      .error { problem := "did not find expected <document start>", mark := u.start }
    else ((m.later .documentEnd).goto .documentContent).skip.emit .documentStart t.start

def endDocument (m : EventMachine) : Step := do
  let t ← m.peek
  let m := if t.kind = .documentEnd then m.skip else m
  { m.goto (.documentStart false) with handles := [] }.emit .documentEnd t.start

/-- What stands before a node: an anchor and a tag in either order. -/
structure Properties where
  start  : Mark
  anchor : Option String := none
  tag    : Option (String × String × Mark) := none

def readProperties (m : EventMachine) : Except Problem (Properties × EventMachine) := do
  let t ← m.peek
  match t.kind with
  | .anchor a =>
    let m := m.skip
    let u ← m.peek
    match u.kind with
    | .tag handle suffix => .ok (⟨t.start, some a, some (handle, suffix, u.start)⟩, m.skip)
    | _ => .ok (⟨t.start, some a, none⟩, m)
  | .tag handle suffix =>
    let m := m.skip
    let u ← m.peek
    match u.kind with
    | .anchor a => .ok (⟨t.start, some a, some (handle, suffix, t.start)⟩, m.skip)
    | _ => .ok (⟨t.start, none, some (handle, suffix, t.start)⟩, m)
  | _ => .ok (⟨t.start, none, none⟩, m)

/-- The full tag: the handle is replaced by what it stands for. -/
def resolveTag (m : EventMachine) (p : Properties) : Except Problem (Option String) :=
  match p.tag with
  | none => .ok none
  | some (handle, suffix, mark) =>
    if handle = "" then .ok (some suffix)
    else
      match m.handles.find? (·.1 == handle) with
      | some (_, start) => .ok (some (start ++ suffix))
      | none =>
        .error { problem := "found undefined tag handle", mark, context := some ("while parsing a node", p.start) }

/-- Reads the beginning of a node. -/
def node (m : EventMachine) (block indentless : Bool) : Step := do
  let t ← m.peek
  match t.kind with
  | .alias name => m.resume.skip.emit (.alias name) t.start
  | _ =>
    let (p, m) ← m.readProperties
    let tag ← m.resolveTag p
    let t ← m.peek
    match t.kind with
    | .scalar text style => m.resume.skip.emit (.scalar p.anchor tag text style) p.start
    | .flowSequenceStart => (m.goto (.flowSequenceEntry true)).emit (.sequenceStart p.anchor tag) p.start
    | .flowMappingStart => (m.goto (.flowMappingKey true)).emit (.mappingStart p.anchor tag) p.start
    | k =>
      if indentless && k = .blockEntry then
        (m.goto .indentlessSequenceEntry).emit (.sequenceStart p.anchor tag) p.start
      else if block && k = .blockSequenceStart then
        (m.goto (.blockSequenceEntry true)).emit (.sequenceStart p.anchor tag) p.start
      else if block && k = .blockMappingStart then
        (m.goto (.blockMappingKey true)).emit (.mappingStart p.anchor tag) p.start
      else if p.anchor.isSome || tag.isSome then m.resume.emit (.scalar p.anchor tag "" .plain) p.start
      else
        .error {
          problem := "did not find expected node content", mark := t.start
          context := some (if block then "while parsing a block node" else "while parsing a flow node", p.start) }

/-- Enters a collection: its first token is passed and its mark kept. -/
def enter (m : EventMachine) (first : Bool) : Except Problem EventMachine := do
  if first then
    let t ← m.peek
    .ok (m.skip.remember t.start)
  else .ok m

/-- Reads a node, or the empty scalar where one of these tokens stands instead. -/
def nodeUnless (m : EventMachine) (stops : List TokenKind) (next : Expect) (mark : Mark)
    (indentless : Bool) : Step := do
  let t ← m.peek
  if stops.contains t.kind then (m.goto next).emitEmpty mark
  else (m.later next).node true indentless

def blockSequenceEntry (m : EventMachine) (first : Bool) : Step := do
  let m ← m.enter first
  let t ← m.peek
  match t.kind with
  | .blockEntry => m.skip.nodeUnless [.blockEntry, .blockEnd] (.blockSequenceEntry false) t.stop false
  | .blockEnd => m.resume.forget.skip.emit .sequenceEnd t.start
  | _ => m.failInside "while parsing a block collection" t "did not find expected '-' indicator"

def indentlessSequenceEntry (m : EventMachine) : Step := do
  let t ← m.peek
  match t.kind with
  | .blockEntry =>
    m.skip.nodeUnless [.blockEntry, .key, .value, .blockEnd] .indentlessSequenceEntry t.stop false
  | _ => m.resume.emit .sequenceEnd t.start

def blockMappingKey (m : EventMachine) (first : Bool) : Step := do
  let m ← m.enter first
  let t ← m.peek
  match t.kind with
  | .key => m.skip.nodeUnless [.key, .value, .blockEnd] .blockMappingValue t.stop true
  | .blockEnd => m.resume.forget.skip.emit .mappingEnd t.start
  | _ => m.failInside "while parsing a block mapping" t "did not find expected key"

def blockMappingValue (m : EventMachine) : Step := do
  let t ← m.peek
  match t.kind with
  | .value => m.skip.nodeUnless [.key, .value, .blockEnd] (.blockMappingKey false) t.stop true
  | _ => (m.goto (.blockMappingKey false)).emitEmpty t.start

/-- Passes the comma between two entries of a flow collection. -/
def passComma (m : EventMachine) (first : Bool) (doing expected : String) : Except Problem EventMachine := do
  let t ← m.peek
  if first then .ok m
  else if t.kind = .flowEntry then .ok m.skip
  else m.failInside doing t ("did not find expected ',' or '" ++ expected ++ "'")

def endFlow (m : EventMachine) (k : EventKind) (t : Token) : Step := m.resume.forget.skip.emit k t.start

def flowSequenceEntry (m : EventMachine) (first : Bool) : Step := do
  let m ← m.enter first
  let t ← m.peek
  if t.kind = .flowSequenceEnd then m.endFlow .sequenceEnd t
  else
    let m ← m.passComma first "while parsing a flow sequence" "]"
    let t ← m.peek
    match t.kind with
    | .key => (m.goto .flowPairKey).skip.emit (.mappingStart none none) t.start
    | .flowSequenceEnd => m.endFlow .sequenceEnd t
    | _ => (m.later (.flowSequenceEntry false)).node false false

def flowPairKey (m : EventMachine) : Step := do
  let t ← m.peek
  match t.kind with
  | .value | .flowEntry | .flowSequenceEnd => (m.goto .flowPairValue).skip.emitEmpty t.stop
  | _ => (m.later .flowPairValue).node false false

def flowPairValue (m : EventMachine) : Step := do
  let t ← m.peek
  if t.kind = .value then
    let m := m.skip
    let u ← m.peek
    match u.kind with
    | .flowEntry | .flowSequenceEnd => (m.goto .flowPairEnd).emitEmpty u.start
    | _ => (m.later .flowPairEnd).node false false
  else (m.goto .flowPairEnd).emitEmpty t.start

def flowPairEnd (m : EventMachine) : Step := do
  let t ← m.peek
  (m.goto (.flowSequenceEntry false)).emit .mappingEnd t.start

def flowMappingKey (m : EventMachine) (first : Bool) : Step := do
  let m ← m.enter first
  let t ← m.peek
  if t.kind = .flowMappingEnd then m.endFlow .mappingEnd t
  else
    let m ← m.passComma first "while parsing a flow mapping" "\x7d"
    let t ← m.peek
    match t.kind with
    | .key =>
      let m := m.skip
      let u ← m.peek
      match u.kind with
      | .value | .flowEntry | .flowMappingEnd => (m.goto .flowMappingValue).emitEmpty u.start
      | _ => (m.later .flowMappingValue).node false false
    | .flowMappingEnd => m.endFlow .mappingEnd t
    | _ => (m.later .flowMappingEmptyValue).node false false

def flowMappingValue (m : EventMachine) : Step := do
  let t ← m.peek
  if t.kind = .value then
    let m := m.skip
    let u ← m.peek
    match u.kind with
    | .flowEntry | .flowMappingEnd => (m.goto (.flowMappingKey false)).emitEmpty u.start
    | _ => (m.later (.flowMappingKey false)).node false false
  else (m.goto (.flowMappingKey false)).emitEmpty t.start

/-- Produces the next event. -/
def step (m : EventMachine) : Step :=
  match m.state with
  | .streamStart => do
    let t ← m.peek
    (m.goto (.documentStart true)).skip.emit .streamStart t.start
  | .documentStart implicit => m.startDocument implicit
  | .documentContent => do
    let t ← m.peek
    match t.kind with
    | .versionDirective .. | .tagDirective .. | .documentStart | .documentEnd | .streamEnd =>
      m.resume.emitEmpty t.start
    | _ => m.node true false
  | .documentEnd => m.endDocument
  | .blockNode => m.node true false
  | .blockSequenceEntry first => m.blockSequenceEntry first
  | .indentlessSequenceEntry => m.indentlessSequenceEntry
  | .blockMappingKey first => m.blockMappingKey first
  | .blockMappingValue => m.blockMappingValue
  | .flowSequenceEntry first => m.flowSequenceEntry first
  | .flowPairKey => m.flowPairKey
  | .flowPairValue => m.flowPairValue
  | .flowPairEnd => m.flowPairEnd
  | .flowMappingKey first => m.flowMappingKey first
  | .flowMappingValue => m.flowMappingValue
  | .flowMappingEmptyValue => do
    let t ← m.peek
    (m.goto (.flowMappingKey false)).emitEmpty t.start
  | .finished => .error m.problem

/-- All events up to the end of the stream or the first problem. -/
def run (fuel : Nat) (m : EventMachine) (acc : List Event) : List Event × Option Problem :=
  match fuel with
  | 0 => (acc.reverse, none)
  | fuel + 1 =>
    match m.step with
    | .error p => (acc.reverse, some p)
    | .ok (e, m') => if e.kind = .streamEnd then ((e :: acc).reverse, none) else run fuel m' (e :: acc)

end EventMachine

/-- The events of some tokens that a problem may have cut short. -/
def Event.ofTokens (tokens : List Token) (problem : Option Problem) : List Event × Option Problem :=
  let m : EventMachine := { tokens, problem := problem.getD { problem := "", mark := {} } }
  m.run (4 * tokens.length + 16) []

end ModelForge.Yaml
