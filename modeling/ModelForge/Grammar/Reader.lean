import ModelForge.Grammar.Check
import ModelForge.Grammar.Resolver
import ModelForge.Grammar.Vocabulary
/-!
Schemas read from a document. Keywords are read in the order of their names, and a reference is
followed where it is met, so that of several mistakes the first one on this way is reported. The
first time a reference is met its target is read in its place; each further time a link stands for
it, and what the link leads to is read once for each set of circumstances.
-/

namespace ModelForge.Grammar

inductive SchemaError
  | reference (cause : ReferenceError)
  /-- The quoted value is no pattern, or the schema that stands under it. -/
  | notPattern (value : Json)
  | unknownKind
  | malformed (problem : Problem)

namespace SchemaError

def message : SchemaError → String
  | reference cause => cause.message
  | notPattern v => v.compact ++ " is not a \"regex\""
  | unknownKind => "Unexpected type"
  | malformed p => p.message

/-- A value of the wrong kind. -/
def wrongKind (v : Json) (kinds : List Kind) : SchemaError := malformed (.wrongKind v kinds)

end SchemaError

/-- The circumstances in which the target of a reference is read. -/
structure Circumstances where
  spelling   : Uri
  base       : Uri
  scopes     : List Uri
  draft      : Draft
  vocabulary : Vocabulary
  deriving DecidableEq

/-- What is known while schemas are read. -/
structure Reading where
  /-- The references met so far. -/
  seen    : List Uri := []
  /-- The names of the links. -/
  links   : List (Circumstances × String) := []
  targets : List (String × Schema) := []
  /-- The number of schemas so far. -/
  count   : Nat := 0

abbrev Read := StateT Reading (Except SchemaError)

namespace Read

def fail {α : Type} (e : SchemaError) : Read α := fun _ => .error e

/-- A step that only references can make fail. -/
def along {α : Type} (r : Except ReferenceError α) : Read α :=
  match r with
  | .ok a => pure a
  | .error e => fail (.reference e)

/-- The result of a step, or none if it fails. -/
def attempt {α : Type} (r : Read α) : Read (Option α) := fun s =>
  match r s with
  | .ok (a, s) => .ok (some a, s)
  | .error _ => .ok (none, s)

end Read

/-- The greatest count that a keyword can carry. -/
def countLimit : Nat := Nat.pow 2 64 - 1

/-- A number without a fraction as a count; a negative one counts nothing. -/
def wholeCount? (n : Number) : Option Nat :=
  let x := n.toBinary64
  if !x.isWhole then none
  else if x.negative then some 0
  else
    match n with
    | .int i => some i.toNat
    | .real x => some (min countLimit (x.numerator / x.denominator))

/-- A count that has to be written as an integer, unless `loose`. -/
def count (loose : Bool) (j : Json) : Read Nat :=
  match j with
  | .num (.int n) =>
    if 0 ≤ n then pure n.toNat
    else if loose then pure 0
    else .fail (.malformed (.belowMinimum j (.int 0)))
  | .num n =>
    match wholeCount? n with
    | some k => if loose then pure k else .fail (.wrongKind j [.integer])
    | none => .fail (.wrongKind j [.integer])
  | _ => .fail (.wrongKind j [.integer])

/-- A bound on the number of matching items. -/
def bound (j : Json) : Read Nat :=
  match j with
  | .num (.int _) => count false j
  | _ => count true j

def number (j : Json) : Read Number :=
  match j with
  | .num n => pure n
  | _ => .fail (.wrongKind j [.number])

def text (j : Json) : Read String :=
  match j with
  | .str s => pure s
  | _ => .fail (.wrongKind j [.string])

def itemsOf (j : Json) : Read (List Json) :=
  match j with
  | .arr items => pure items
  | _ => .fail (.wrongKind j [.array])

def membersOf (j : Json) : Read (List (String × Json)) :=
  match j with
  | .obj members => pure members
  | _ => .fail (.wrongKind j [.object])

def texts (j : Json) : Read (List String) := do (← itemsOf j).mapM text

def matcher (s : String) (quoted : Json) : Read Matcher :=
  match Matcher.ofText? s with
  | some m => pure m
  | none => .fail (.notPattern quoted)

/-- A kind among several. -/
def kindAmong (j : Json) : Read Kind := do
  match Kind.ofName? (← text j) with
  | some k => return k
  | none => .fail (.malformed (.notInEnum j (Kind.all.map fun k => .str k.name)))

/-- One kind or several. -/
def kinds (j : Json) : Read (List Kind) :=
  let one (s : String) : Read (List Kind) :=
    match Kind.ofName? s with
    | some k => pure [k]
    | none => .fail .unknownKind
  match j with
  | .str s => one s
  | .arr [x] => do one (← text x)
  | .arr items => items.mapM kindAmong
  | _ => .fail (.wrongKind j [.array, .string])

/-- The names that the presence of a name requires. -/
def dependentNames (j : Json) : Read (List String) := do
  if hasRepeated (← itemsOf j) then .fail (.malformed (.repeatedItems j)) else texts j

/-- How a schema has the schemas in it read and its references followed. -/
structure Reader where
  draft  : Draft
  schema : Json → Read Schema
  /-- The schema that a reference leads to; none if that is the schema with the reference itself. -/
  target : String → String → Read (Option Schema)

namespace Reader

/-- The check that a keyword stands for, if it is one. -/
def check (r : Reader) (siblings : List (String × Json)) (keyword : String) (value : Json) :
    Read (Option Check) := do
  let count := count (.draft6 ≤ r.draft)
  -- In draft 4, a sibling tells whether a bound itself is allowed.
  let excluded (name : String) : Bool :=
    r.draft = .draft4 && (Keyed.find? name siblings).bind Json.asBool? = some true
  match keyword with
  | "type" =>
    let kinds ← kinds value
    return some (if r.draft = .draft4 then .writtenKind kinds else .kind kinds)
  | "const" => return some (.const value)
  | "enum" => return some (.enum (← itemsOf value))
  | "minLength" => return some (.minLength (← count value))
  | "maxLength" => return some (.maxLength (← count value))
  | "pattern" => do
    let s ← text value
    return some (.pattern s (← matcher s value))
  | "format" => return (Form.ofName? r.draft (← text value)).map .form
  | "contentEncoding" =>
    if Keyed.contains "contentMediaType" siblings then return none
    else if (← text value) = "base64" then return some (.encoded "base64")
    else return none
  | "contentMediaType" =>
    let mediaType ← text value
    if mediaType ≠ "application/json" then return none
    else
      match Keyed.find? "contentEncoding" siblings with
      | none => return some (.content mediaType)
      | some encoding =>
        if (← text encoding) = "base64" then return some (.encodedContent "base64" mediaType) else return none
  | "minimum" =>
    let limit ← number value
    return some (if excluded "exclusiveMinimum" then .exclusiveMinimum limit else .minimum limit)
  | "maximum" =>
    let limit ← number value
    return some (if excluded "exclusiveMaximum" then .exclusiveMaximum limit else .maximum limit)
  | "exclusiveMinimum" => return some (.exclusiveMinimum (← number value))
  | "exclusiveMaximum" => return some (.exclusiveMaximum (← number value))
  | "multipleOf" => return some (.multipleOf (← number value).toBinary64)
  | "minItems" => return some (.minItems (← count value))
  | "maxItems" => return some (.maxItems (← count value))
  | "uniqueItems" =>
    return if value.asBool? = some true then some .uniqueItems else none
  | "minProperties" => return some (.minProperties (← count value))
  | "maxProperties" => return some (.maxProperties (← count value))
  | "required" => return some (.required (← texts value))
  | "dependentRequired" =>
    let entries ← (← membersOf value).mapM fun (k, v) => do return (k, ← dependentNames v)
    return some (.dependentRequired entries)
  | _ => return none

def list (r : Reader) (j : Json) : Read (List Schema) := do (← itemsOf j).mapM r.schema

def named (r : Reader) (j : Json) : Read (List (String × Schema)) := do
  (← membersOf j).mapM fun (k, v) => do return (k, ← r.schema v)

def patterned (r : Reader) (j : Json) : Read (List (String × Matcher × Schema)) := do
  (← membersOf j).mapM fun (k, v) => do return (k, ← matcher k v, ← r.schema v)

def dependency (r : Reader) (j : Json) : Read (List String ⊕ Schema) :=
  match j with
  | .arr _ => .inl <$> texts j
  | _ => .inr <$> r.schema j

/-- Members of a sibling, where there is one; without a sibling there are none. -/
def siblingMembers (siblings : List (String × Json)) (name : String) : Read Json :=
  match Keyed.find? name siblings with
  | none => pure (.obj [])
  | some (.obj members) => pure (.obj members)
  | some _ => .fail .unknownKind

/-- Members beyond the known ones. Where such members are restricted, the known ones come under this
keyword too. -/
def additional (r : Reader) (siblings : List (String × Json)) (value : Json) : Read (Option Keyword) := do
  let matching ← r.patterned (← siblingMembers siblings "patternProperties")
  match value with
  | .bool true => return some (.additionalProperties [] [] (some .always))
  | .bool false =>
    if Keyed.contains "properties" siblings || Keyed.contains "patternProperties" siblings then
      let known ← r.named (← siblingMembers siblings "properties")
      return some (.additionalProperties known matching none)
    else return some (.check .noProperties)
  | _ =>
    let known ← siblingMembers siblings "properties"
    if Keyed.contains "patternProperties" siblings then
      let others ← r.schema value
      return some (.additionalProperties (← r.named known) matching (some others))
    else
      let known ← r.named known
      return some (.additionalProperties known matching (some (← r.schema value)))

/-- Whether the keyword for additional members looks at the known ones too. -/
def additionalTakesAll (siblings : List (String × Json)) : Bool :=
  match Keyed.find? "additionalProperties" siblings with
  | some (.bool false) => true
  | some (.obj _) => true
  | _ => false

/-- A condition. One without an outcome is not even looked at, so that it may be malformed, and its
references do not count as met. -/
def conditional (r : Reader) (siblings : List (String × Json)) (value : Json) : Read (Option Keyword) := do
  let outcome (name : String) : Read Schema :=
    match Keyed.find? name siblings with
    | some j => r.schema j
    | none => pure .always
  if Keyed.contains "then" siblings || Keyed.contains "else" siblings then
    let condition ← r.schema value
    let consequent ← outcome "then"
    return some (.conditional condition consequent (← outcome "else"))
  else
    let before ← get
    let condition ← (r.schema value).attempt
    modify fun s => { s with seen := before.seen }
    return condition.map fun c => .conditional c .always .always

/-- The items behind those that have schemas of their own. Where no item is allowed at all, no value is. -/
def additionalItems (r : Reader) (siblings : List (String × Json)) (value : Json) : Read (Option Keyword) := do
  match Keyed.find? "items" siblings with
  | some (.bool false) => return some (.check .noValue)
  | some (.arr heads) =>
    match value with
    | .bool false => return some (.check (.noAdditionalItems heads.length))
    | .obj _ => return some (.items "additionalItems" heads.length (← r.schema value))
    | _ => return some (.items "additionalItems" heads.length .always)
  | _ => return none

/-- All items, or all behind those at the head. A value that is no schema asks nothing. -/
def items (r : Reader) (siblings : List (String × Json)) (value : Json) : Read Keyword := do
  let heads := ((Keyed.find? "prefixItems" siblings).bind Json.asArray?).getD []
  match value with
  | .arr _ => return .firstItems "items" (← r.list value) (r.draft = .draft2020)
  | .obj _ | .bool false => return .items "items" heads.length (← r.schema value)
  | _ => return .items "items" 0 .always

/-- The keyword of a name and value among others; none for a name that asks nothing. -/
def keyword (r : Reader) (siblings : List (String × Json)) (name : String) (value : Json) :
    Read (Option Keyword) := do
  match name with
  | "$ref" | "$dynamicRef" | "$recursiveRef" => return (← r.target name (← text value)).map (.reference name ·)
  | "allOf" => return some (.allOf (← r.list value))
  | "anyOf" => return some (.anyOf (← r.list value))
  | "oneOf" => return some (.oneOf (← r.list value))
  | "not" => return some (.negation (← r.schema value) value.compact)
  | "if" => r.conditional siblings value
  | "prefixItems" => return some (.firstItems name (← r.list value) false)
  | "items" => some <$> r.items siblings value
  | "additionalItems" => r.additionalItems siblings value
  | "contains" =>
    let bound (n : String) : Read (Option Nat) :=
      match Keyed.find? n siblings with
      | some j => if .draft2019 ≤ r.draft then some <$> bound j else pure none
      | none => pure none
    let least ← bound "minContains"
    let most ← bound "maxContains"
    return some (.contains (← r.schema value) least most)
  | "properties" =>
    if additionalTakesAll siblings then return none else return some (.properties (← r.named value))
  | "patternProperties" =>
    if additionalTakesAll siblings then return none else return some (.patternProperties (← r.patterned value))
  | "additionalProperties" => r.additional siblings value
  | "propertyNames" =>
    match value with
    | .obj _ | .bool false => return some (.propertyNames (← r.schema value))
    | _ => return none
  | "dependentSchemas" => return some (.dependentSchemas (← r.named value))
  | "dependencies" =>
    let entries ← (← membersOf value).mapM fun (k, v) => do return (k, ← r.dependency v)
    return some (.dependencies entries)
  | "unevaluatedItems" => return some (.unevaluatedItems (← r.schema value))
  | "unevaluatedProperties" => return some (.unevaluatedProperties (← r.schema value))
  | _ => return (← r.check siblings name value).map .check

end Reader

/-- Where a schema is read, and which keywords are in use there. -/
structure Context where
  resolver   : Resolver
  vocabulary : Vocabulary

namespace Context

/-- Goes over to a schema. -/
def enter (c : Context) (s : Resource) : Read Context :=
  return { c with resolver := ← .along (c.resolver.enter s) }

/-- A schema inside one of a draft. -/
def resource (draft : Draft) (j : Json) : Resource := ⟨j, (draft.within j).getD .draft2020⟩

/-- The link to a target, which is read as a schema of a draft, unless that was done before in the same
circumstances. A target that cannot be read so is not noticed before a value comes to it. -/
def link (c : Context) (read : Context → Resource → Read Schema) (spelling : Uri) (s : Resource) : Read Schema := do
  let c ← c.enter s
  let c := { c with resolver.scopes := c.resolver.scopes.reverse.eraseDups.reverse }
  let key : Circumstances := ⟨spelling, c.resolver.base, c.resolver.scopes, s.draft, c.vocabulary⟩
  let before ← get
  match before.links.find? (·.1 = key) with
  | some (_, name) => return .link name
  | none =>
    let name := toString before.links.length
    set { before with seen := [], links := (key, name) :: before.links }
    let schema ← (do read (← c.enter s) s).attempt
    modify fun after => { after with seen := before.seen, targets := (name, schema.getD .always) :: after.targets }
    return .link name

/-- Whether a schema may stand for an outer one, so that references in it are followed each time anew. -/
def isRecursive (parent : Json) (keyword : String) : Bool :=
  keyword = "$ref" && ((parent.member? "$recursiveAnchor").bind Json.asBool?).getD false

/-- Follows a reference in a schema. One that was met before asks nothing if its target has the same
reference. -/
def follow (c : Context) (read : Context → Resource → Read Schema) (parent : Resource) (keyword reference : String) :
    Read (Option Schema) := do
  let spelling ← .along (Registry.resolve c.resolver.base reference)
  let t ← .along (if keyword = "$recursiveRef" then c.resolver.lookupRecursive else c.resolver.lookup reference)
  if (← get).seen.contains spelling then
    if (t.resource.contents.member? keyword).bind Json.asString? = some reference then return none
    else some <$> { c with resolver := t.resolver }.link read spelling ⟨t.resource.contents, parent.draft⟩
  else do
    if !isRecursive parent.contents keyword then modify fun s => { s with seen := spelling :: s.seen }
    some <$> read ⟨t.resolver, .ofResource c.resolver.registry t.resource⟩ t.resource

end Context

/-- The schema of a value, with at most so many steps down or along references. -/
def readSchema : Nat → Context → Resource → Read Schema
  | 0, _, _ => return .always
  | fuel + 1, c, s => do
    modify fun state => { state with count := state.count + 1 }
    match s.contents with
    | .bool b => return if b then .always else .never
    | .obj members =>
      let reader : Reader :=
        { draft := s.draft
          schema := fun j => do
            let inner := Context.resource s.draft j
            readSchema fuel (← c.enter inner) inner
          target := c.follow (readSchema fuel) s }
      let admitted := (s.draft.counted members).filter fun m => c.vocabulary.admits s.draft m.1
      let keywords ← admitted.filterMapM fun (name, value) => reader.keyword members name value
      return .all keywords
    | j => .fail (.wrongKind j [.boolean, .object])

namespace Json

mutual

/-- The number of values in a value, itself included. -/
def count : Json → Nat
  | .arr items => countItems items + 1
  | .obj members => countMembers members + 1
  | _ => 1

def countItems : List Json → Nat
  | [] => 0
  | x :: xs => count x + countItems xs

def countMembers : List (String × Json) → Nat
  | [] => 0
  | (_, x) :: xs => count x + countMembers xs

end

end Json

/-- The schemas of a document that a registry holds under a base. -/
def Schemas.ofResource (g : Registry) (base : Uri) (r : Resource) : Except SchemaError Schemas := do
  let size := g.resources.foldl (fun n e => n + Json.count e.2.contents) (Json.count r.contents)
  let start : Read Schema := do
    let c : Context := ⟨⟨g, base, []⟩, .ofResource g r⟩
    readSchema ((size + 1) * (size + 1)) (← c.enter r) r
  let (root, reading) ← start {}
  return ⟨root, reading.targets, 3 * reading.count⟩

end ModelForge.Grammar
