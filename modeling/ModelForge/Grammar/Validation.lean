import ModelForge.Grammar.Check
/-!
Validation of a value by a schema: all findings, in the order of the keywords, of the members by
name, and of the items by position. A keyword is told how to visit a value with another schema;
the visit itself goes on with fewer visits left, and `Schemas.findings` allows as many as a value
of that depth can need.
-/

namespace ModelForge.Grammar

/-- How a keyword looks at a value with other schemas. -/
structure Visitor where
  findings   : Schema → Place → Json → List Finding
  /-- The names of members, and the positions of items, that a schema has looked at. -/
  names      : Schema → Json → List String
  positions  : Schema → Json → List Nat

namespace Visitor

def accepts (visit : Visitor) (s : Schema) (v : Json) : Bool := (visit.findings s {} v).isEmpty

end Visitor

/-- Names that some members have, with the schema for each. -/
def findKnown (known : List (String × Schema)) (name : String) : Option Schema := Keyed.find? name known

def matchesOf (matching : List (String × Matcher × Schema)) (name : String) : List (String × Schema) :=
  (matching.filter fun m => m.2.1.found name).map fun m => (m.1, m.2.2)

namespace Keyword

/-- The branches of a combination, each with its position. -/
def branchFindings (visit : Visitor) (place : Place) (v : Json) (branches : List Schema) : List Finding :=
  branches.zipIdx.flatMap fun (s, i) => visit.findings s (place.under (toString i)) v

/-- The findings about items from a position on, each looked at with the same schema. -/
def itemFindings (visit : Visitor) (place : Place) (start : Nat) (s : Schema) (items : List Json) :
    List Finding :=
  (items.zipIdx.drop start).flatMap fun (x, i) => visit.findings s (place.down (toString i)) x

def memberFindings (visit : Visitor) (place : Place) (name : String) (x : Json) (key : String)
    (schemas : List (String × Schema)) : List Finding :=
  schemas.flatMap fun (k, s) => visit.findings s (((place.under key).under k).down name) x

/-- The findings about one member where known names, patterns and a schema for all other names
come together. -/
def mixedFindings (visit : Visitor) (place : Place) (known : List (String × Schema))
    (matching : List (String × Matcher × Schema)) (others : Option Schema) (name : String) (x : Json) :
    List Finding :=
  let ofKnown := (findKnown known name).toList.map (name, ·)
  let ofMatching := matchesOf matching name
  if ofKnown.isEmpty && ofMatching.isEmpty then
    match others with
    | some s => visit.findings s ((place.under "additionalProperties").down name) x
    | none => []
  else
    memberFindings visit place name x "properties" ofKnown ++
      memberFindings visit place name x "patternProperties" ofMatching

/-- The names that neither are known nor match. -/
def unexpectedNames (known : List (String × Schema)) (matching : List (String × Matcher × Schema))
    (members : List (String × Json)) : List String :=
  ((members.map (·.1)).filter fun n => (findKnown known n).isNone && (matchesOf matching n).isEmpty)

/-- The findings of a count of matching items against its bounds. Where only the greatest count is
given, one match at least is asked for too. -/
def containsFindings (place : Place) (v : Json) (count : Nat) (least most : Option Nat) : List Finding :=
  let failAt (keyword : String) : List Finding := [⟨place.under keyword, .notContained v⟩]
  match least, most with
  | none, none => if count = 0 then failAt "contains" else []
  | some n, none => if count < n then failAt "minContains" else []
  | none, some m => if count > m || count = 0 then failAt "maxContains" else []
  | some n, some m =>
    if count > m then failAt "maxContains" else if count < n then failAt "minContains" else []

/-- The findings of the keywords that look at the items of an array. -/
def ofItems (visit : Visitor) (place : Place) (xs : List Json) (v : Json) : Keyword → List Finding
  | firstItems keyword schemas _ =>
    (schemas.zip xs).zipIdx.flatMap fun ((s, x), i) =>
      visit.findings s (((place.under keyword).under (toString i)).down (toString i)) x
  | items keyword start s => itemFindings visit (place.under keyword) start s xs
  | contains s least most => containsFindings place v (xs.countP (visit.accepts s)) least most
  | _ => []

/-- The findings of the keywords that look at the members of an object. -/
def ofMembers (visit : Visitor) (place : Place) (members : List (String × Json)) (v : Json) :
    Keyword → List Finding
  | properties known =>
    known.flatMap fun (name, s) =>
      match Keyed.find? name members with
      | some x => visit.findings s (((place.under "properties").under name).down name) x
      | none => []
  | patternProperties matching =>
    matching.flatMap fun (text, p, s) =>
      (members.filter fun m => p.found m.1).flatMap fun (name, x) =>
        visit.findings s (((place.under "patternProperties").under text).down name) x
  | additionalProperties known matching others =>
    let own := members.flatMap fun (name, x) => mixedFindings visit place known matching others name x
    let unexpected := unexpectedNames known matching members
    if others.isNone && !unexpected.isEmpty then
      own ++ [⟨place.under "additionalProperties", .additional unexpected⟩]
    else own
  | propertyNames s =>
    match s with
    | .never => if members.isEmpty then [] else [⟨place.under "propertyNames", .neverAllowed v⟩]
    | s => members.flatMap fun (name, _) => visit.findings s (place.under "propertyNames") (.str name)
  | dependentSchemas schemas =>
    (schemas.filter fun d => Keyed.contains d.1 members).flatMap fun (name, s) =>
      visit.findings s ((place.under "dependentSchemas").under name) v
  | dependencies entries =>
    (entries.filter fun d => Keyed.contains d.1 members).flatMap fun (name, d) =>
      match d with
      | .inl names => (missingFrom members names).map (⟨place.under "dependencies", ·⟩)
      | .inr s => visit.findings s ((place.under "dependencies").under name) v
  | _ => []

/-- The findings of the keywords that look at the same value with other schemas. -/
def ofValue (visit : Visitor) (place : Place) (v : Json) : Keyword → List Finding
  | check c => c.findings place v
  | reference keyword s => visit.findings s (place.under keyword) v
  | allOf branches => branchFindings visit (place.under "allOf") v branches
  | anyOf branches =>
    if branches.any (visit.accepts · v) then [] else [⟨place.under "anyOf", .noneOf v "anyOf"⟩]
  | oneOf branches =>
    match branches.countP (visit.accepts · v) with
    | 0 => [⟨place.under "oneOf", .noneOf v "oneOf"⟩]
    | 1 => []
    | _ => [⟨place.under "oneOf", .severalOf v "oneOf"⟩]
  | negation s text => if visit.accepts s v then [⟨place.under "not", .excluded v text⟩] else []
  | conditional condition consequent alternative =>
    if visit.accepts condition v then visit.findings consequent (place.under "then") v
    else visit.findings alternative (place.under "else") v
  | _ => []

/-- The items and members that the other keywords of a schema leave to its last ones. -/
def ofRest (visit : Visitor) (siblings : List Keyword) (place : Place) (v : Json) : Keyword → List Finding
  | unevaluatedItems s =>
    match v with
    | .arr xs =>
      let seen := visit.positions (.all siblings) v
      let left := xs.zipIdx.filter fun (x, i) => !seen.contains i && !visit.accepts s x
      if left.isEmpty then []
      else [⟨place.under "unevaluatedItems", .unevaluatedItems (left.map (·.1.compact))⟩]
    | _ => []
  | unevaluatedProperties s =>
    match v with
    | .obj members =>
      let seen := visit.names (.all siblings) v
      let left := members.filter fun (n, x) => !seen.contains n && !visit.accepts s x
      if left.isEmpty then []
      else [⟨place.under "unevaluatedProperties", .unevaluatedProperties (left.map (·.1))⟩]
    | _ => []
  | _ => []

/-- All findings of one keyword among others. -/
def findings (visit : Visitor) (siblings : List Keyword) (place : Place) (v : Json)
    (k : Keyword) : List Finding :=
  let ofParts := match v with
    | .arr xs => k.ofItems visit place xs v
    | .obj members => k.ofMembers visit place members v
    | _ => []
  k.ofValue visit place v ++ ofParts ++ k.ofRest visit siblings place v

/-- Branches that are more than one word; only these tell what they have looked at. -/
def telling (branches : List Schema) : List Schema := branches.filter Schema.isObject

/-- All branches, provided that every one of them holds. -/
def ifAllHold (visit : Visitor) (v : Json) (branches : List Schema) : List Schema :=
  if (telling branches).all (visit.accepts · v) then telling branches else []

/-- The branch that holds, provided that no other one does. -/
def ifOneHolds (visit : Visitor) (v : Json) (branches : List Schema) : List Schema :=
  match (telling branches).filter (visit.accepts · v) with
  | [s] => [s]
  | _ => []

/-- What a condition and its outcome have looked at. -/
def chosen (visit : Visitor) (v : Json) (condition consequent alternative : Schema) : List Schema :=
  if !condition.isObject then []
  else if visit.accepts condition v then telling [condition, consequent]
  else telling [alternative]

/-- The names of the members that a keyword has looked at. Known names and names that match count
whatever their values are, and any other member counts if it is accepted. -/
def seenNames (visit : Visitor) (members : List (String × Json)) (v : Json) (k : Keyword) : List String :=
  let names := members.map (·.1)
  let accepted (s : Schema) : List String := (members.filter fun m => visit.accepts s m.2).map (·.1)
  let through (schemas : List Schema) : List String := schemas.flatMap (visit.names · v)
  match k with
  | properties known => names.filter fun n => (findKnown known n).isSome
  | patternProperties matching => names.filter fun n => !(matchesOf matching n).isEmpty
  | additionalProperties known matching others =>
    (names.filter fun n => (findKnown known n).isSome || !(matchesOf matching n).isEmpty) ++
      others.toList.flatMap accepted
  | unevaluatedProperties s => accepted s
  | reference _ s => through [s]
  | allOf branches => through (ifAllHold visit v branches)
  | anyOf branches =>
    if (telling branches).any (visit.accepts · v) then through (telling branches) else []
  | oneOf branches => through (ifOneHolds visit v branches)
  | conditional condition consequent alternative => through (chosen visit v condition consequent alternative)
  | dependentSchemas entries => through ((entries.filter fun d => Keyed.contains d.1 members).map (·.2))
  | _ => []

/-- The positions of the items that a keyword has looked at. -/
def seenPositions (visit : Visitor) (xs : List Json) (v : Json) (k : Keyword) : List Nat :=
  let accepted (s : Schema) : List Nat := (xs.zipIdx.filter fun (x, _) => visit.accepts s x).map (·.2)
  let through (schemas : List Schema) : List Nat := schemas.flatMap (visit.positions · v)
  match k with
  | firstItems _ heads takesAll => List.range (if takesAll then xs.length else heads.length)
  | items _ _ _ => List.range xs.length
  | check (.noAdditionalItems _) => List.range xs.length
  | contains s _ _ => accepted s
  | unevaluatedItems s => accepted s
  | reference _ s => through [s]
  | allOf branches => through (ifAllHold visit v branches)
  | anyOf branches => through (ifAllHold visit v branches)
  | oneOf branches => through (ifOneHolds visit v branches)
  | conditional condition consequent alternative => through (chosen visit v condition consequent alternative)
  | _ => []

end Keyword

namespace Schemas

mutual

/-- What is wrong with a value, with so many visits at most one below the other. -/
def visit (g : Schemas) : Nat → Schema → Place → Json → List Finding
  | 0, _, _, _ => []
  | _ + 1, .always, _, _ => []
  | _ + 1, .never, place, v => [⟨place, .neverAllowed v⟩]
  | n + 1, .all keywords, place, v =>
    keywords.flatMap fun k => k.findings ⟨visit g n, names g n, positions g n⟩ keywords place v
  | n + 1, .link target, place, v => visit g n (g.target target) place v

def names (g : Schemas) : Nat → Schema → Json → List String
  | n + 1, .all keywords, .obj members =>
    keywords.flatMap fun k => k.seenNames ⟨visit g n, names g n, positions g n⟩ members (.obj members)
  | n + 1, .link target, v => names g n (g.target target) v
  | _, _, _ => []

def positions (g : Schemas) : Nat → Schema → Json → List Nat
  | n + 1, .all keywords, .arr xs =>
    keywords.flatMap fun k => k.seenPositions ⟨visit g n, names g n, positions g n⟩ xs (.arr xs)
  | n + 1, .link target, v => positions g n (g.target target) v
  | _, _, _ => []

end

/-- Everything that is wrong with a value. A way down a value looks at each of its parts with each
schema at most once, unless references run in a circle without looking at a part. -/
def findings (g : Schemas) (v : Json) : List Finding := g.visit ((g.size + 1) * (v.depth + 1)) g.root {} v

end Schemas

end ModelForge.Grammar
