import ModelForge.Grammar
import ModelForge.Proofs.Grammar.Check
import ModelForge.Proofs.Grammar.Validation

namespace ModelForge

open Json

namespace Grammar.Bundled

open Schemas (Decides)

variable {depth visits : Nat} {P : Json → Prop}

-- How many visits each schema needs is told from below, so that a lemma fits wherever more are left.

theorem ref_decides {target : String} (h : schemas.Decides depth visits (schemas.target target) P) :
    schemas.Decides depth (visits + 2) (ref target) P :=
  .congr (.all <| .cons (.reference h.link) .nil) fun v => by simp

theorem ofKind_decides {k : Kind} : schemas.Decides depth (visits + 1) (ofKind k) (k.admits ·) :=
  .congr (.all <| .cons (.check _) .nil) fun v => by simp [Check.problems_kind]

theorem text_decides : schemas.Decides depth (visits + 1) text IsText :=
  ofKind_decides.congr fun _ => Kind.admits_string

theorem nonEmptyText_decides : schemas.Decides depth (visits + 1) nonEmptyText IsNonEmptyText :=
  .congr (.all <| .cons (.check _) <| .cons (.check _) .nil) fun v => by
    cases v <;> simp [Check.problems_minLength, Check.problems_kind, Kind.admits_string, IsText, IsNonEmptyText]

theorem count_decides : schemas.Decides depth (visits + 1) count IsCount :=
  .congr (.all <| .cons (.check _) <| .cons (.check _) .nil) fun v => by
    cases v <;> simp [Check.problems_minimum, Check.problems_kind, Kind.admits, IsCount,
      Number.exists_same_nat, and_comm]

theorem mem_kinds {name : String} : name ∈ kinds ↔ ∃ k : Kind, k.name = name := by
  constructor
  · intro h
    simp only [kinds, List.mem_cons, List.not_mem_nil, or_false] at h
    obtain h | h | h | h | h | h | h := h <;> subst h
    exacts [⟨.string, rfl⟩, ⟨.number, rfl⟩, ⟨.integer, rfl⟩, ⟨.boolean, rfl⟩, ⟨.object, rfl⟩, ⟨.array, rfl⟩,
      ⟨.null, rfl⟩]
  · intro ⟨k, h⟩
    subst h
    cases k <;> simp [kinds, Kind.name]

theorem primitive_decides : schemas.Decides depth (visits + 1) primitive IsPrimitive :=
  .congr (.all <| .cons (.check _) .nil) fun v => by
    simp only [List.forall_mem_singleton, Check.problems_enum, mem_kinds, IsPrimitive]
    exact ⟨fun ⟨_, ⟨k, hk⟩, h⟩ => ⟨k, hk ▸ h⟩, fun ⟨k, h⟩ => ⟨_, ⟨k, rfl⟩, h⟩⟩

theorem primitives_decides : schemas.Decides depth (visits + 4) (.all [.items "items" 0 (ref "/$defs/primitive"),
    .check (.minItems 1), .check (.kind [.array]), .check .uniqueItems]) fun v =>
      ∃ ks : List Kind, v = .arr (ks.map (.str ·.name)) ∧ ks ≠ [] ∧ ks.Nodup := by
  refine .congr (.all <| .cons (.items <| ref_decides primitive_decides) <|
    .cons (.check _) <| .cons (.check _) <| .cons (.check _) .nil) fun v => ?_
  simp only [List.forall_mem_cons, Check.problems_minItems, Check.problems_kind, Kind.admits_array,
    Check.problems_uniqueItems]
  cases v
  case arr xs =>
    have e := different_texts_iff Kind.name_injective (fun _ => True) xs
    simp only [and_true, implies_true] at e
    simp only [arr.injEq, forall_eq', IsPrimitive, IsArray, exists_eq', true_and]
    constructor
    · rintro ⟨hp, hs, hu, _⟩
      obtain ⟨ks, hk, hd⟩ := e.mp ⟨hp, hu⟩
      exact ⟨ks, hk, fun h => hs <| by rw [hk, h, List.map_nil], hd⟩
    · rintro ⟨ks, hk, hs, hd⟩
      obtain ⟨hp, hu⟩ := e.mpr ⟨ks, hk, hd⟩
      exact ⟨hp, fun h => hs <| List.map_eq_nil_iff.mp <| hk.symm.trans h, hu, by simp⟩
  all_goals simp [IsArray]

theorem typeSpec_decides : schemas.Decides depth (visits + 5) typeSpec IsTypeSpec := by
  have one : schemas.Decides depth (visits + 4) (ref "/$defs/primitive") IsPrimitive := ref_decides primitive_decides
  -- A text is no array, so never both alternatives hold.
  have apart (v : Json) : v.IsPrimitive →
      ¬∃ ks : List Kind, v = .arr (ks.map (.str ·.name)) ∧ ks ≠ [] ∧ ks.Nodup := by
    intro ⟨k, hk⟩ ⟨ks, hv, _⟩
    simp [hk] at hv
  refine .congr (.all <| .cons (.oneOf one primitives_decides apart) .nil) fun v => ?_
  simp only [List.forall_mem_singleton]
  constructor
  · intro
    | .inl ⟨k, hk⟩ => exact hk ▸ .one k
    | .inr ⟨ks, hv, hs, hd⟩ => exact hv ▸ .several hs hd
  · intro
    | .one k => exact .inl ⟨k, rfl⟩
    | .several hs hd => exact .inr ⟨_, rfl, hs, hd⟩

theorem requiredList_decides : schemas.Decides depth (visits + 2) requiredList IsRequiredList := by
  refine .congr (.all <| .cons (.items nonEmptyText_decides) <| .cons (.check _) <|
      .cons (.check _) .nil) fun v => ?_
  simp only [List.forall_mem_cons, Check.problems_kind, Kind.admits_array, Check.problems_uniqueItems]
  cases v
  case arr xs =>
    have e := different_texts_iff Function.injective_id (· ≠ "") xs
    simpa [IsArray, IsNonEmptyText, IsRequiredList] using e
  all_goals simp [IsArray, IsRequiredList]

theorem propertyMap_decides (h : schemas.Decides (depth - 1) visits node IsNode) :
    schemas.Decides depth (visits + 3) propertyMap IsPropertyMap := by
  have hn : schemas.Decides (depth - 1) (visits + 2) (ref "/$defs/node") IsNode := ref_decides h
  refine .congr (.all <| .cons (.additionalProperties hn) <| .cons (.check _) .nil) fun v => ?_
  simp only [List.forall_mem_cons, Check.problems_kind, Kind.admits_object]
  constructor
  · intro ⟨hn, ⟨members, hv⟩, _⟩
    exact hv ▸ .obj (hn members hv)
  · intro
    | .obj nodes => exact ⟨fun _ h => obj.inj h ▸ nodes, ⟨_, rfl⟩, by simp⟩

theorem nodeList_decides (h : schemas.Decides (depth - 1) visits node IsNode) :
    schemas.Decides depth (visits + 3) nodeList IsNodeList := by
  have hn : schemas.Decides (depth - 1) (visits + 2) (ref "/$defs/node") IsNode := ref_decides h
  refine .congr (.all <| .cons (.items hn) <| .cons (.check _) <|
    .cons (.check _) .nil) fun v => ?_
  simp only [List.forall_mem_cons, Check.problems_minItems, Check.problems_kind, Kind.admits_array]
  constructor
  · intro ⟨hn, hs, ⟨xs, hv⟩, _⟩
    exact hv ▸ .arr (hs xs hv) (hn xs hv)
  · intro
    | .arr hs nodes => exact ⟨fun _ h => arr.inj h ▸ nodes, fun _ h => arr.inj h ▸ hs, ⟨_, rfl⟩, by simp⟩

theorem additional_decides (h : schemas.Decides depth visits node IsNode) :
    schemas.Decides depth (visits + 3) additional IsAdditional := by
  have hn : schemas.Decides depth (visits + 2) (ref "/$defs/node") IsNode := ref_decides h
  -- Nodes are objects.
  have apart (v : Json) : Kind.boolean.admits v = true → ¬v.IsNode := by
    intro hv hn
    cases hn
    cases hv
  refine .congr (.all <| .cons (.oneOf ofKind_decides hn apart) .nil) fun v => ?_
  simp only [List.forall_mem_singleton, Kind.admits_boolean]
  constructor
  · intro
    | .inl ⟨_, hv⟩ => exact hv ▸ .bool
    | .inr hv => exact .node hv
  · intro
    | .bool => exact .inl ⟨_, rfl⟩
    | .node hv => exact .inr hv

-- What the schema for each member of a node decides.
def nodeFields : List (String × (Json → Prop)) := [
  ("$ref", IsNonEmptyText),
  ("additionalProperties", IsAdditional),
  ("allOf", IsNodeList),
  ("anyOf", IsNodeList),
  ("const", fun _ => True),
  ("default", fun _ => True),
  ("description", IsText),
  ("enum", IsNonEmptyArray),
  ("examples", IsArray),
  ("format", IsText),
  ("items", IsNode),
  ("maxItems", IsCount),
  ("maxLength", IsCount),
  ("maximum", IsNumber),
  ("minItems", IsCount),
  ("minLength", IsCount),
  ("minimum", IsNumber),
  ("oneOf", IsNodeList),
  ("pattern", IsText),
  ("properties", IsPropertyMap),
  ("required", IsRequiredList),
  ("title", IsText),
  ("type", IsTypeSpec)]

theorem isNode_iff {members : List (String × Json)} : IsNode (.obj members) ↔
    (∃ name ∈ typing, IsPresent members name) ∧ ∀ f ∈ nodeFields, WherePresent members f.1 f.2 := by
  simp only [nodeFields, List.forall_mem_cons, List.not_mem_nil, IsEmpty.forall_iff, implies_true, and_true]
  constructor
  · intro
    | .obj typed type texts reference enum examples properties required additional items combinations
        bounds counts =>
      simp only [List.forall_mem_cons] at texts combinations bounds counts
      have ⟨title, description, format, pattern, _⟩ := texts
      have ⟨oneOf, anyOf, allOf, _⟩ := combinations
      have ⟨minimum, maximum, _⟩ := bounds
      have ⟨minLength, maxLength, minItems, maxItems, _⟩ := counts
      have any {name} : WherePresent members name fun _ => True := fun _ _ => trivial
      exact ⟨typed, reference, additional, allOf, anyOf, any, any, description, enum, examples, format, items,
        maxItems, maxLength, maximum, minItems, minLength, minimum, oneOf, pattern, properties, required,
        title, type⟩
  · intro ⟨typed, reference, additional, allOf, anyOf, _, _, description, enum, examples, format, items,
      maxItems, maxLength, maximum, minItems, minLength, minimum, oneOf, pattern, properties, required,
      title, type⟩
    refine .obj typed type ?texts reference enum examples properties required additional items ?combinations
      ?bounds ?counts
    case texts        => simp [title, description, format, pattern]
    case combinations => simp [oneOf, anyOf, allOf]
    case bounds       => simp [minimum, maximum]
    case counts       => simp [minLength, maxLength, minItems, maxItems]

theorem number_decides : schemas.Decides depth (visits + 1) (ofKind .number) IsNumber :=
  ofKind_decides.congr fun _ => Kind.admits_number

theorem array_decides : schemas.Decides depth (visits + 1) (ofKind .array) IsArray :=
  ofKind_decides.congr fun _ => Kind.admits_array

theorem nonEmptyArray_decides :
    schemas.Decides depth (visits + 1) (.all [.check (.minItems 1), .check (.kind [.array])]) IsNonEmptyArray :=
  .congr (.all <| .cons (.check _) <| .cons (.check _) .nil) fun v => by
    cases v <;> simp [Check.problems_minItems, Check.problems_kind, Kind.admits_array, IsArray, IsNonEmptyArray]

theorem nodeFields_decide (h : schemas.Decides depth (visits + 2) node IsNode) :
    List.Forall₂ (fun k f => k.1 = f.1 ∧ schemas.Decides depth (visits + 7) k.2 f.2) nodeProperties nodeFields := by
  have combination : schemas.Decides depth (visits + 7) (ref "/$defs/nodeList") IsNodeList :=
    ref_decides <| nodeList_decides h.shallower
  have items : schemas.Decides depth (visits + 7) (ref "/$defs/node") IsNode :=
    fun n hn => ref_decides h n <| by omega
  simp only [nodeProperties, nodeFields, List.forall₂_cons, List.forall₂_nil_left_iff, true_and, and_true]
  exact ⟨nonEmptyText_decides, ref_decides <| additional_decides h, combination, combination, .always, .always,
    text_decides, nonEmptyArray_decides, array_decides, text_decides, items, count_decides, count_decides,
    number_decides, count_decides, count_decides, number_decides, combination, text_decides,
    ref_decides <| propertyMap_decides h.shallower, ref_decides requiredList_decides, text_decides,
    ref_decides typeSpec_decides⟩

theorem typing_decides :
    (Keyword.anyOf <| typing.map fun name => .all [.check (.required [name])]).Decides schemas depth (visits + 1)
      fun v => ∃ name ∈ typing, ∀ members, v = .obj members → IsPresent members name := by
  have h : List.Forall₂ (schemas.Decides depth (visits + 1))
      (typing.map fun name => .all [.check (.required [name])])
      (typing.map fun name v => ∀ members, v = .obj members → IsPresent members name) := by
    rw [List.forall₂_map_left_iff, List.forall₂_map_right_iff, List.forall₂_same]
    exact fun name _ => .congr (.all <| .cons (.check _) .nil) fun v => by simp [Check.problems_required]
  exact .congr (.anyOf h) fun v => by simp only [List.mem_map, exists_exists_and_eq_and]

theorem node_decides_step (h : schemas.Decides (depth - 1) (visits + 2) node IsNode) :
    schemas.Decides depth (visits + 8) node IsNode := by
  refine .congr (.all <| .cons typing_decides <| .cons (.properties <| nodeFields_decide h) <|
    .cons (.check _) .nil) fun v => ?_
  simp only [List.forall_mem_cons, Check.problems_kind, Kind.admits_object]
  constructor
  · intro ⟨⟨name, hm, typed⟩, fields, ⟨members, hv⟩, _⟩
    subst hv
    exact isNode_iff.mpr ⟨⟨name, hm, typed members rfl⟩, fields members rfl⟩
  · intro hn
    obtain ⟨members, hv⟩ : ∃ members, v = .obj members := by cases hn; exact ⟨_, rfl⟩
    subst hv
    obtain ⟨⟨name, hm, typed⟩, fields⟩ := isNode_iff.mp hn
    exact ⟨⟨name, hm, fun _ h => obj.inj h ▸ typed⟩, fun _ h => obj.inj h ▸ fields, ⟨_, rfl⟩, by simp⟩

-- The parts of a node that are nodes lie deeper, and each level of nodes costs six visits: from a node
-- to its property, through the reference and the target to the list of nodes, and through the next
-- reference to the nodes in it.
theorem node_decides : ∀ depth, schemas.Decides depth (6 * depth + 2) node IsNode
  | 0 => .flat
  | depth + 1 => by
    have h : schemas.Decides (depth + 1 - 1) (6 * depth + 2) node IsNode := node_decides depth
    exact node_decides_step h

-- What the schema for each member of a model decides.
def modelFields : List (String × (Json → Prop)) := [
  ("$defs", IsPropertyMap),
  ("$id", IsText),
  ("$schema", IsText),
  ("additionalProperties", IsAdditional),
  ("definitions", IsPropertyMap),
  ("description", IsText),
  ("properties", IsPropertyMap),
  ("required", IsRequiredList),
  ("title", IsNonEmptyText),
  ("type", (· = .str "object"))]

theorem modelFields_decide (h : schemas.Decides depth (visits + 2) node IsNode) :
    List.Forall₂ (fun k f => k.1 = f.1 ∧ schemas.Decides depth (visits + 7) k.2 f.2) modelProperties modelFields := by
  have map : schemas.Decides depth (visits + 7) (ref "/$defs/propertyMap") IsPropertyMap :=
    ref_decides <| propertyMap_decides h.shallower
  have type : schemas.Decides depth (visits + 7) (.all [.check (.const (.str "object"))]) (· = .str "object") :=
    .congr (.all <| .cons (.check _) .nil) fun v => by simp [Check.problems_const]
  simp only [modelProperties, modelFields, List.forall₂_cons, List.forall₂_nil_left_iff, true_and, and_true]
  exact ⟨map, text_decides, text_decides, ref_decides <| additional_decides h, map, text_decides, map,
    ref_decides requiredList_decides, nonEmptyText_decides, type⟩

theorem isModel_iff {members : List (String × Json)} : IsModel (.obj members) ↔
    (∀ f ∈ modelFields, WherePresent members f.1 f.2) ∧
      IsPresent members "type" ∧ IsPresent members "properties" := by
  simp only [modelFields, List.forall_mem_cons, List.not_mem_nil, IsEmpty.forall_iff, implies_true, and_true]
  constructor
  · intro
    | .obj type properties texts title definitions required additional =>
      simp only [List.forall_mem_cons] at texts definitions
      have ⟨schema, id, description, _⟩ := texts
      have ⟨definitions, defs, _⟩ := definitions
      have ⟨p, hp, map⟩ := properties
      refine ⟨⟨defs, id, schema, additional, definitions, description, fun x hx => ?_, required, title,
        fun x hx => ?_⟩, ⟨_, type⟩, ⟨p, hp⟩⟩
      · cases hp.symm.trans hx
        exact map
      · cases type.symm.trans hx
        rfl
  · intro ⟨⟨defs, id, schema, additional, definitions, description, map, required, title, type⟩,
      ⟨t, ht⟩, ⟨p, hp⟩⟩
    refine .obj ?type ⟨p, hp, map p hp⟩ ?texts title ?definitions required additional
    case type        => rw [ht, type t ht]
    case texts       => simp [schema, id, description]
    case definitions => simp [definitions, defs]

theorem model_decides (h : schemas.Decides (depth - 1) (visits + 2) node IsNode) :
    schemas.Decides depth (visits + 8) model IsModel := by
  refine .congr (.all <| .cons (.properties <| modelFields_decide h) <| .cons (.check _) <|
    .cons (.check _) .nil) fun v => ?_
  simp only [List.forall_mem_cons, Check.problems_required, Check.problems_kind, Kind.admits_object]
  constructor
  · intro ⟨fields, present, ⟨members, hv⟩, _⟩
    subst hv
    have ⟨type, properties, _⟩ := present members rfl
    exact isModel_iff.mpr ⟨fields members rfl, type, properties⟩
  · intro hm
    obtain ⟨members, hv⟩ : ∃ members, v = .obj members := by cases hm; exact ⟨_, rfl⟩
    subst hv
    have ⟨fields, type, properties⟩ := isModel_iff.mp hm
    exact ⟨fun _ h => obj.inj h ▸ fields, fun _ h => obj.inj h ▸ ⟨type, properties, by simp⟩, ⟨_, rfl⟩, by simp⟩

end Grammar.Bundled

namespace Grammar

theorem validate_valid_iff {g : Grammar} {v : Json} : g.validate v = .valid ↔ g.schemas.findings v = [] := by
  rw [validate, violations]
  cases g.schemas.findings v <;> simp [Verdict.ofViolations]

-- The bundled grammar accepts exactly the models.
theorem bundled_valid_iff (v : Json) : bundled.validate v = .valid ↔ v.IsModel := by
  rw [validate_valid_iff]
  have fuel : (Bundled.schemas.size + 1) * (v.depth + 1) ≥ 6 * (v.depth - 1) + 8 := by
    have : Bundled.schemas.size = 100 := rfl
    rw [this]
    omega
  exact Bundled.model_decides (Bundled.node_decides (v.depth - 1)) _ fuel {} v Nat.le.refl

end Grammar

end ModelForge
