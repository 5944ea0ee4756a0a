import ModelForge.Proofs.Grammar.Bundled
import ModelForge.Proofs.Grammar.Place

namespace ModelForge

namespace Grammar

-- Some finding concerns the part of a document that a pointer leads to from a place, or lies inside it.
def Points (fs : List Finding) (place : Place) (p : Pointer) : Prop :=
  ∃ f ∈ fs, place.document ++ p <+: f.place.document

variable {fs : List Finding} {place : Place} {p : Pointer} {t : String} {v x : Json}

namespace Points

theorem flatMap {f : α → List Finding} {as : List α} :
    Points (as.flatMap f) place p ↔ ∃ a ∈ as, Points (f a) place p := by
  simp only [Points, List.mem_flatMap]
  constructor
  · intro ⟨e, ⟨a, ha, he⟩, hp⟩
    exact ⟨a, ha, e, he, hp⟩
  · intro ⟨a, ha, e, he, hp⟩
    exact ⟨e, ⟨a, ha, he⟩, hp⟩

theorem down : Points fs (place.down t) p ↔ Points fs place (t :: p) := by
  simp [Points, Place.down]

-- What concerns the whole of a value does not blame a part of it.
theorem not_of_here (h : ∀ f ∈ fs, f.place.document = place.document) : ¬Points fs place (t :: p) := by
  intro ⟨f, hf, hp⟩
  have := hp.length_le
  simp only [h f hf, List.length_append, List.length_cons] at this
  omega

-- All findings about a value blame it.
theorem root_iff (h : ∀ f ∈ fs, f.Within place v) : Points fs place [] ↔ fs ≠ [] := by
  constructor
  · intro ⟨f, hf, _⟩
    exact List.ne_nil_of_mem hf
  · intro hn
    obtain ⟨f, hf⟩ := List.exists_mem_of_ne_nil fs hn
    obtain ⟨q, x, hq, _⟩ := h f hf
    exact ⟨f, hf, q, by simp [hq]⟩

-- What concerns one part does not blame another one.
theorem eq_of_within {u : String} (h : ∀ f ∈ fs, f.Within (place.down u) x) (hp : Points fs place (t :: p)) :
    t = u := by
  obtain ⟨f, hf, hp⟩ := hp
  obtain ⟨q, y, hq, _⟩ := h f hf
  have hq : f.place.document = place.document ++ (u :: q) := by simp [hq, Place.down]
  rw [hq, List.prefix_append_right_inj, List.cons_prefix_cons] at hp
  exact hp.left

end Points

namespace Keyword

variable {visit : Visitor} {siblings : List Keyword} {members : List (String × Json)} {s : Schema}

theorem check_points {c : Check} (plain : ∀ encoding mediaType, c ≠ .encodedContent encoding mediaType) :
    ¬Points ((check c).findings visit siblings place v) place (t :: p) := by
  rw [findings_value (fun _ => rfl) (fun _ => rfl) rfl, ofValue]
  exact Points.not_of_here fun f hf => Check.document_of_mem plain hf

theorem reference_points {keyword : String} :
    Points ((reference keyword s).findings visit siblings place v) place p ↔
      Points (visit.findings s (place.under keyword) v) place p := by
  rw [findings_value (fun _ => rfl) (fun _ => rfl) rfl, ofValue]

variable (hv : ∀ {s place x}, s.Local → x.Canonical → ∀ f ∈ visit.findings s place x, f.Within place x)

include hv

-- A member with a known name is blamed for what its own schema finds in it, and for nothing else.
theorem properties_points {known : List (String × Schema)} (hk : ∀ e ∈ known, e.2.Local)
    (hc : (Json.obj members).Canonical) (hx : Keyed.find? t members = some x) :
    Points ((properties known).findings visit siblings place (.obj members)) place (t :: p) ↔
      ∃ e ∈ known, (e.1 = t) ∧
        Points (visit.findings e.2 (((place.under "properties").under t).down t) x) (place.down t) p := by
  have .obj sorted values := hc
  rw [findings_obj rfl rfl, ofMembers, Points.flatMap]
  refine exists_congr fun (name, s) => and_congr_right fun he => ?_
  constructor
  · intro hp
    dsimp only at hp
    split at hp
    case h_1 y hy =>
      have hp' : Points _ ((place.under "properties").under name) (t :: p) := hp
      obtain rfl := Points.eq_of_within (hv (hk _ he) (values _ (Keyed.mem_of_find? hy))) hp'
      obtain rfl := Option.some.inj (hx.symm.trans hy)
      exact ⟨rfl, Points.down.mpr hp⟩
    case h_2 => simp [Points] at hp
  · intro ⟨ht, hp⟩
    obtain rfl : name = t := ht
    simpa [hx] using Points.down.mp hp

theorem additionalProperties_points (hs : s.Local) (hc : (Json.obj members).Canonical)
    (hx : Keyed.find? t members = some x) :
    Points ((additionalProperties [] [] (some s)).findings visit siblings place (.obj members)) place (t :: p) ↔
      Points (visit.findings s ((place.under "additionalProperties").down t) x) (place.down t) p := by
  have .obj sorted values := hc
  rw [findings_obj rfl rfl, Points.down]
  simp only [ofMembers, Option.isNone_some, Bool.false_and, Bool.false_eq_true, if_false, Points.flatMap]
  constructor
  · intro ⟨(name, y), hm, hp⟩
    have hp' : Points _ (place.under "additionalProperties") (t :: p) := hp
    obtain rfl := Points.eq_of_within (hv hs (values _ hm)) hp'
    obtain rfl := Option.some.inj (hx.symm.trans (Keyed.find?_of_mem sorted hm))
    exact hp
  · intro hp
    exact ⟨(t, x), Keyed.mem_of_find? hx, hp⟩

end Keyword

theorem Schemas.visit_all_points {g : Schemas} {n : Nat} {ks : List Keyword} :
    Points (g.visit (n + 1) (.all ks) place v) place p ↔
      ∃ k ∈ ks, Points (k.findings (g.visitor n) ks place v) place p := by
  rw [visit, Points.flatMap]
  rfl

namespace Bundled

open ModelForge.Json (IsNode)

variable {members : List (String × Json)} {key : String} {n depth visits : Nat}

theorem schemas_local : schemas.Local where
  root := by
    simp [schemas, model, modelProperties, ref, text, ofKind, nonEmptyText]
  targets := by
    simp [schemas, additional, node, nodeProperties, nodeList, primitive, propertyMap, requiredList, typeSpec, ref,
      text, count, ofKind, nonEmptyText]

theorem ref_points {target : String} : Points (schemas.visit (n + 2) (ref target) place v) place p ↔
    Points (schemas.visit n (schemas.target target) (place.under "$ref") v) (place.under "$ref") p := by
  rw [ref, Schemas.visit_all_points]
  simp only [List.mem_singleton, exists_eq_left, Keyword.reference_points]
  rfl

-- A map of properties blames a property for not being a node, and for nothing else.
theorem propertyMap_points (hc : (Json.obj members).Canonical) (hx : Keyed.find? key members = some x)
    (hn : n ≥ 6 * x.depth + 5) :
    Points (schemas.visit n propertyMap place (.obj members)) place [key] ↔ ¬x.IsNode := by
  obtain ⟨n, rfl⟩ : ∃ m, n = m + 1 := ⟨n - 1, by omega⟩
  have .obj _ values := hc
  have hl : (ref "/$defs/node").Local := by simp [ref]
  have hd : schemas.Decides x.depth (6 * x.depth + 4) (ref "/$defs/node") IsNode := ref_decides (node_decides _)
  rw [propertyMap, Schemas.visit_all_points]
  simp only [List.mem_cons, List.not_mem_nil, or_false, exists_eq_or_imp, exists_eq_left]
  rw [or_iff_left (Keyword.check_points (by simp)),
    Keyword.additionalProperties_points (Schemas.visit_within schemas_local) hl hc hx]
  calc Points (schemas.visit n (ref "/$defs/node") _ x) _ []
    _ ↔ schemas.visit n (ref "/$defs/node") _ x ≠ [] :=
      Points.root_iff (Schemas.visit_within schemas_local hl (values _ (Keyed.mem_of_find? hx)))
    _ ↔ ¬x.IsNode := not_congr (hd n (by omega) _ x Nat.le.refl)

-- The members of a model that describe types by name.
def maps : List String := ["properties", "definitions", "$defs"]

theorem mem_modelProperties_iff {name : String} {s : Schema} (h : name ∈ maps) :
    (name, s) ∈ modelProperties ↔ s = ref "/$defs/propertyMap" := by
  simp only [maps, List.mem_cons, List.not_mem_nil, or_false] at h
  rcases h with rfl | rfl | rfl <;> simp [modelProperties]

theorem modelProperties_local : ∀ e ∈ modelProperties, e.2.Local := by
  have .all h := schemas_local.root
  have .properties h := h (.properties modelProperties) (by simp)
  exact h

theorem model_points {name : String} {props : List (String × Json)} (hm : name ∈ maps)
    (hc : (Json.obj members).Canonical) (hp : Keyed.find? name members = some (.obj props))
    (hx : Keyed.find? key props = some x) (hn : n ≥ 6 * x.depth + 8) :
    Points (schemas.visit n model place (.obj members)) place [name, key] ↔ ¬x.IsNode := by
  obtain ⟨n, rfl⟩ : ∃ m, n = m + 3 := ⟨n - 3, by omega⟩
  have .obj _ values := hc
  have map {place : Place} :
      Points (schemas.visit (n + 2) (ref "/$defs/propertyMap") place (.obj props)) place [key] ↔ ¬x.IsNode :=
    ref_points.trans <| propertyMap_points (values _ (Keyed.mem_of_find? hp)) hx (by omega)
  rw [model, Schemas.visit_all_points]
  simp only [List.mem_cons, List.not_mem_nil, or_false, exists_eq_or_imp, exists_eq_left]
  rw [or_iff_left (not_or_intro (Keyword.check_points (by simp)) (Keyword.check_points (by simp))),
    Keyword.properties_points (Schemas.visit_within schemas_local) modelProperties_local hc hp]
  constructor
  · intro ⟨(k, s), he, hk, hs⟩
    obtain rfl : k = name := hk
    obtain rfl := (mem_modelProperties_iff hm).mp he
    exact map.mp hs
  · intro hn
    exact ⟨(name, _), (mem_modelProperties_iff hm).mpr rfl, rfl, map.mpr hn⟩

end Bundled

end Grammar

-- The path of a violation leads to a part of a document or further down.
def Violation.Blames (e : Violation) (p : Pointer) : Prop :=
  ∃ rest, e.instancePath.toList = Pointer.textChars p ++ rest ∧ (rest = [] ∨ rest.head? = some '/')

namespace Grammar

theorem violation_blames {f : Finding} : f.violation.Blames p ↔ p <+: f.place.document := by
  rw [Violation.Blames, ← Pointer.textChars_begins_iff]
  simp [Finding.violation, Pointer.text]

theorem violations_validate {g : Grammar} :
    (g.validate v).violations = (g.schemas.findings v).map (·.violation) := by
  rw [validate, violations]
  cases g.schemas.findings v <;> rfl

-- Every violation names a part of the document. In the members of a model that describe types by name, what
-- is blamed is what is no node, however many there are and whatever their names.
theorem bundled_blames (hc : v.Canonical) :
    (∀ e ∈ (bundled.validate v).violations, ∃ p x, Pointer.read? e.instancePath.toList = some p ∧ v.Part p x) ∧
    ∀ name ∈ ["properties", "definitions", "$defs"], ∀ members, v.member? name = some (.obj members) →
      ∀ key x, Keyed.find? key members = some x →
        ((∃ e ∈ (bundled.validate v).violations, e.Blames [name, key]) ↔ ¬x.IsNode) := by
  rw [violations_validate]
  constructor
  · intro e he
    obtain ⟨f, hf, rfl⟩ := List.mem_map.mp he
    obtain ⟨x, hx⟩ := Schemas.findings_part Bundled.schemas_local hc hf
    exact ⟨f.place.document, x, by simp [Finding.violation, Pointer.text, Pointer.read?_textChars], hx⟩
  · intro name hm members hp key x hx
    cases v
    case obj fields =>
      have hn : (Bundled.schemas.size + 1) * ((Json.obj fields).depth + 1) ≥ 6 * x.depth + 8 := by
        have hs : Bundled.schemas.size = 100 := rfl
        have h₁ : x.depth < (Json.obj members).depth := Json.depth_lt_obj (Keyed.mem_of_find? hx)
        have h₂ : (Json.obj members).depth < (Json.obj fields).depth := Json.depth_lt_obj (Keyed.mem_of_find? hp)
        rw [hs]
        omega
      calc (∃ e ∈ (bundled.schemas.findings (.obj fields)).map (·.violation), e.Blames [name, key])
        _ ↔ Points (bundled.schemas.findings (.obj fields)) {} [name, key] := by simp [Points, violation_blames]
        _ ↔ ¬x.IsNode := Bundled.model_points hm hc hp hx hn
    all_goals simp [Json.member?] at hp

-- Three properties, the last two of them bad. The name of the first one begins that of the second.
def threeProperties : Json := .obj [
  ("properties", .obj [
    ("a", .obj [("type", .str "string")]),
    ("a/b", .obj []),
    ("~", .null)]),
  ("type", .str "object")]

theorem canonical_threeProperties : threeProperties.Canonical := by
  have string : (Json.obj [("type", .str "string")]).Canonical :=
    .obj (by unfold Keyed.Sorted; decide) (by simp [Json.Canonical.str])
  have empty : (Json.obj []).Canonical := .obj (by unfold Keyed.Sorted; decide) (by simp)
  have properties : (Json.obj [("a", .obj [("type", .str "string")]), ("a/b", .obj []), ("~", .null)]).Canonical :=
    .obj (by unfold Keyed.Sorted; decide) (by simp [string, empty, Json.Canonical.null])
  exact .obj (by unfold Keyed.Sorted; decide) (by simp [properties, Json.Canonical.str])

theorem bundled_blames_threeProperties :
    (∃ e ∈ (bundled.validate threeProperties).violations, e.Blames ["properties", "a/b"]) ∧
    (∃ e ∈ (bundled.validate threeProperties).violations, e.Blames ["properties", "~"]) ∧
    ¬∃ e ∈ (bundled.validate threeProperties).violations, e.Blames ["properties", "a"] := by
  have blames := (bundled_blames canonical_threeProperties).right "properties" (by simp) _ rfl
  have string : (Json.obj [("type", .str "string")]).IsNode := by
    have type : (Json.str "string").IsTypeSpec := .one .string
    simpa [Bundled.isNode_iff, Bundled.nodeFields, Bundled.typing, Json.IsPresent, Json.WherePresent, Keyed.find?]
  have empty : ¬(Json.obj []).IsNode := by
    simp [Bundled.isNode_iff, Json.IsPresent, Keyed.find?]
  have null : ¬Json.null.IsNode := by
    intro h
    cases h
  exact ⟨(blames "a/b" _ rfl).mpr empty, (blames "~" _ rfl).mpr null, fun h => (blames "a" _ rfl).mp h string⟩

end Grammar

end ModelForge
