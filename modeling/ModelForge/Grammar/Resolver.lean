import ModelForge.Grammar.Registry
import ModelForge.Text.Utf8
/-!
Where references lead. A reference is completed by the base of the schema it stands in; its fragment
is a way down from there or the name of an anchor. A dynamic anchor stands for the outermost schema
with that anchor among those that the references so far have come through.
-/

namespace ModelForge.Grammar

/-- The place from which references are followed. -/
structure Resolver where
  registry : Registry
  base     : Uri
  /-- The bases of the references that led here, the latest first. -/
  scopes   : List Uri := []

/-- What a reference leads to, and from where to follow the references in it. -/
structure Target where
  resource : Resource
  resolver : Resolver

/-- Replaces each escape of two hexadecimal digits by the byte it names. -/
def percentDecode : Bytes → Bytes
  | p :: a :: b :: rest =>
    match if p = 37 then (hexDigit? a).bind (fun a => (hexDigit? b).map (16 * a + ·)) else none with
    | some n => n :: percentDecode rest
    | none => p :: percentDecode (a :: b :: rest)
  | other => other
where
  hexDigit? (b : UInt8) : Option UInt8 :=
    if 48 ≤ b && b ≤ 57 then some (b - 48)
    else if 65 ≤ b && b ≤ 70 then some (b - 55)
    else if 97 ≤ b && b ≤ 102 then some (b - 87)
    else none

/-- The position that a token names; a plus sign may stand before the digits. -/
def position? (token : List Char) : Option Nat :=
  let digits := match token with
    | '+' :: rest => rest
    | _ => token
  (Pointer.index? (String.ofList digits)).filter (· < Nat.pow 2 64)

namespace Resolver

/-- Goes over to a schema, whose identifier changes the base. -/
def enter (r : Resolver) (s : Resource) : Except ReferenceError Resolver :=
  return { r with base := ← Registry.baseWithin r.base s }

/-- Goes over to another base by a reference. -/
def evolve (r : Resolver) (base : Uri) : Resolver :=
  if r.scopes.isEmpty || base ≠ r.base then { r with base, scopes := r.base :: r.scopes } else r

/-- One step down, as a token of the given pointer says, with the name of the member it goes to. -/
def step (pointer : String) (j : Json) (token : List Char) : Except ReferenceError (Option String × Json) :=
  match j with
  | .arr items =>
    match position? token with
    | none => .error (.badIndex (String.ofList token) pointer)
    | some i =>
      match items[i]? with
      | some x => .ok (none, x)
      | none => .error (.noPointer pointer)
  | _ =>
    let name := String.ofList (Pointer.unescape token)
    match j.member? name with
    | some x => .ok (some name, x)
    | none => .error (.noPointer pointer)

/-- Goes down from a schema. A schema with an identifier on the way changes the base; the way since
the last one that did is kept. -/
def follow (pointer : String) (draft : Draft) : List (List Char) → List (Option String) → Json → Resolver →
    Except ReferenceError Target
  | [], _, j, r => .ok ⟨⟨j, draft⟩, r⟩
  | token :: rest, way, j, r => do
    let (name, inner) ← step pointer j token
    let way := way ++ [name]
    let next ← if draft.leadsToSchema inner way then r.enter ⟨inner, draft⟩ else pure r
    follow pointer draft rest (if next.base = r.base then way else []) inner next

/-- The part of a document that a fragment with slashes names. -/
def followPointer (r : Resolver) (s : Resource) (pointer : List Char) : Except ReferenceError Target :=
  match Text.Utf8.decode (percentDecode (Text.Utf8.encode (pointer.drop 1))) with
  | .error _ => .error (.badEncoding (String.ofList pointer))
  | .ok decoded => follow (String.ofList pointer) s.draft (Pointer.parts decoded) [] s.contents r

/-- The schema under an anchor. -/
def followAnchor (r : Resolver) (name : String) (a : Anchor) : Except ReferenceError Target :=
  if a.isDynamic then do
    let outer := r.scopes.foldl (fun last u =>
      match r.registry.anchor? u name with
      | some a => if a.isDynamic then a.resource else last
      | none => last) a.resource
    return ⟨outer, ← r.enter outer⟩
  else .ok ⟨a.resource, r⟩

/-- The document that a reference names, and the fragment behind it. -/
def split (r : Resolver) (reference : String) : Except ReferenceError (Uri × List Char) :=
  match reference.toList with
  | '#' :: fragment => .ok (r.base, fragment)
  | other => do
    let (document, fragment) := Uri.cutFragment other
    return (← Registry.resolve r.base (String.ofList document), fragment)

/-- Where a reference leads. -/
def lookup (r : Resolver) (reference : String) : Except ReferenceError Target := do
  let (uri, fragment) ← r.split reference
  match r.registry.resource? uri with
  | none => .error (.unregistered uri)
  | some s =>
    let name := String.ofList fragment
    match fragment with
    | [] => return ⟨s, r.evolve uri⟩
    | '/' :: _ => (r.evolve uri).followPointer s fragment
    | _ =>
      match r.registry.anchor? uri name with
      | some a => (r.evolve uri).followAnchor name a
      | none => .error (if fragment.contains '/' then .badAnchor name else .noAnchor name)

/-- Whether references to a schema as a whole may be meant for an outer one. -/
def isRecursive (t : Target) : Bool :=
  ((t.resource.contents.member? "$recursiveAnchor").bind Json.asBool?).getD false

/-- The outermost schema that the schema here may stand for. -/
def lookupRecursive (r : Resolver) : Except ReferenceError Target := do
  let rec outermost (last : Target) : List Uri → Except ReferenceError Target
    | [] => .ok last
    | u :: rest => do
      let next ← r.lookup u.text
      if isRecursive next then outermost next rest else return last
  let here ← r.lookup "#"
  if isRecursive here then outermost here r.scopes else return here

end Resolver

end ModelForge.Grammar
