import ModelForge.Proofs.Grammar.Validation
import ModelForge.Proofs.Json.Pointer
import ModelForge.Proofs.Json.Value

namespace ModelForge.Grammar

mutual

-- Schemas whose findings all concern parts of the value looked at. Only what is said about the bytes in
-- a text has no place, and it is said by no other check than that of a notation and a type together.
inductive Schema.Local : Schema → Prop
  | always : Schema.Local .always
  | never : Schema.Local .never
  | all (keywords : ∀ k ∈ ks, Keyword.Local k) : Schema.Local (.all ks)
  | link : Schema.Local (.link target)

inductive Keyword.Local : Keyword → Prop
  | check (c : Check) (plain : ∀ encoding mediaType, c ≠ .encodedContent encoding mediaType) :
    Keyword.Local (.check c)
  | reference (schema : Schema.Local s) : Keyword.Local (.reference keyword s)
  | allOf (branches : ∀ s ∈ ss, Schema.Local s) : Keyword.Local (.allOf ss)
  -- These report that branches fail or hold, not why.
  | anyOf : Keyword.Local (.anyOf ss)
  | oneOf : Keyword.Local (.oneOf ss)
  | negation : Keyword.Local (.negation s shown)
  | conditional (consequent : Schema.Local s₁) (alternative : Schema.Local s₂) :
    Keyword.Local (.conditional s s₁ s₂)
  | firstItems (schemas : ∀ s ∈ ss, Schema.Local s) : Keyword.Local (.firstItems keyword ss takesAll)
  | items (schema : Schema.Local s) : Keyword.Local (.items keyword start s)
  | contains : Keyword.Local (.contains s least most)
  | properties (known : ∀ e ∈ es, Schema.Local e.2) : Keyword.Local (.properties es)
  | patternProperties (matching : ∀ e ∈ ms, Schema.Local e.2.2) : Keyword.Local (.patternProperties ms)
  | additionalProperties (known : ∀ e ∈ es, Schema.Local e.2) (matching : ∀ e ∈ ms, Schema.Local e.2.2)
      (others : ∀ s ∈ other, Schema.Local s) : Keyword.Local (.additionalProperties es ms other)
  | propertyNames (schema : Schema.Local s) : Keyword.Local (.propertyNames s)
  | dependentSchemas (schemas : ∀ e ∈ es, Schema.Local e.2) : Keyword.Local (.dependentSchemas es)
  | dependencies (schemas : ∀ e ∈ ds, ∀ s, e.2 = .inr s → Schema.Local s) : Keyword.Local (.dependencies ds)
  | unevaluatedItems : Keyword.Local (.unevaluatedItems s)
  | unevaluatedProperties : Keyword.Local (.unevaluatedProperties s)

end

section Local

attribute [simp] Schema.Local.always Schema.Local.link Keyword.Local.oneOf Keyword.Local.anyOf

variable {keyword : String} {start : Nat} {s : Schema}

@[simp]
theorem Schema.local_all {ks : List Keyword} : (Schema.all ks).Local ↔ ∀ k ∈ ks, k.Local :=
  ⟨fun | .all h => h, .all⟩

@[simp]
theorem Keyword.local_check {c : Check} :
    (Keyword.check c).Local ↔ ∀ encoding mediaType, c ≠ .encodedContent encoding mediaType :=
  ⟨fun | .check _ h => h, .check c⟩

@[simp]
theorem Keyword.local_reference : (Keyword.reference keyword s).Local ↔ s.Local :=
  ⟨fun | .reference h => h, .reference⟩

@[simp]
theorem Keyword.local_items : (Keyword.items keyword start s).Local ↔ s.Local :=
  ⟨fun | .items h => h, .items⟩

@[simp]
theorem Keyword.local_properties {known : List (String × Schema)} :
    (Keyword.properties known).Local ↔ ∀ e ∈ known, e.2.Local :=
  ⟨fun | .properties h => h, .properties⟩

@[simp]
theorem Keyword.local_additionalProperties : (Keyword.additionalProperties [] [] (some s)).Local ↔ s.Local :=
  ⟨fun | .additionalProperties _ _ h => h s rfl, fun h => .additionalProperties (by simp) (by simp) (by simpa)⟩

end Local

-- A finding about a value at a place concerns the value or a part of it.
def Finding.Within (place : Place) (v : Json) (f : Finding) : Prop :=
  ∃ p x, (f.place.document = place.document ++ p) ∧ v.Part p x

variable {place : Place} {v x : Json} {f : Finding} {t : String}

namespace Finding.Within

theorem here (h : f.place.document = place.document) : f.Within place v :=
  ⟨[], v, by simp [h], .root⟩

theorem under (h : f.Within (place.under t) v) : f.Within place v := h

theorem member {members : List (String × Json)} (h : f.Within (place.down t) x)
    (hx : Keyed.find? t members = some x) : f.Within place (.obj members) := by
  obtain ⟨p, y, hp, hy⟩ := h
  exact ⟨t :: p, y, by simp [hp, Place.down], .member hx hy⟩

theorem item {items : List Json} {i : Nat} (h : f.Within (place.down (toString i)) x)
    (hx : items[i]? = some x) : f.Within place (.arr items) := by
  obtain ⟨p, y, hp, hy⟩ := h
  exact ⟨toString i :: p, y, by simp [hp, Place.down], .item hx hy⟩

-- A name has no parts, so a finding about it stays where the object is.
theorem name {s : String} (h : f.Within place (.str s)) : f.Within place v := by
  obtain ⟨p, y, hp, hy⟩ := h
  cases hy
  exact .here (by simpa using hp)

end Finding.Within

namespace Check

variable {c : Check}

theorem notText_notMem (hc : ∀ encoding mediaType, c ≠ .encodedContent encoding mediaType)
    (cause : Text.Utf8.Invalid) : .notText cause ∉ c.problems v := by
  cases c
  case encodedContent encoding mediaType => exact absurd rfl (hc encoding mediaType)
  case pattern text m =>
    cases v
    case str s => cases h : m.search s <;> simp [problems, ofKind, ofString, h]
    all_goals simp [problems, ofKind, ofNumber, ofItems, ofMembers]
  case noProperties =>
    cases v
    case obj members => cases members <;> simp [problems, ofKind, ofMembers]
    all_goals simp [problems, ofKind, ofNumber, ofString, ofItems]
  all_goals
    cases v <;> simp [problems, ofKind, ofNumber, ofString, ofItems, ofMembers, problemIf, missingFrom]

theorem document_of_mem (hc : ∀ encoding mediaType, c ≠ .encodedContent encoding mediaType)
    (h : f ∈ c.findings place v) : f.place.document = place.document := by
  obtain ⟨p, hp, rfl⟩ := List.mem_map.mp h
  have hn := notText_notMem (v := v) hc
  cases p
  case notText cause => exact absurd hp (hn cause)
  all_goals rfl

end Check

namespace Keyword

variable {visit : Visitor} {siblings : List Keyword} {k : Keyword} {xs : List Json} {members : List (String × Json)}

theorem document_of_mem_contains {count : Nat} {least most : Option Nat}
    (hf : f ∈ containsFindings place v count least most) : f.place.document = place.document := by
  have failAt (keyword : String) (h : f ∈ [⟨place.under keyword, .notContained v⟩]) :
      f.place.document = place.document := by
    simp [List.mem_singleton.mp h, Place.under]
  cases least <;> cases most <;> grind [containsFindings]

theorem document_of_mem_rest (hf : f ∈ k.ofRest visit siblings place v) : f.place.document = place.document := by
  cases k
  case unevaluatedItems s =>
    cases v
    case arr xs =>
      simp only [ofRest, List.mem_ite_nil_left, List.mem_singleton] at hf
      simp [hf, Place.under]
    all_goals simp [ofRest] at hf
  case unevaluatedProperties s =>
    cases v
    case obj members =>
      simp only [ofRest, List.mem_ite_nil_left, List.mem_singleton] at hf
      simp [hf, Place.under]
    all_goals simp [ofRest] at hf
  all_goals simp [ofRest] at hf

-- Given that the findings of schemas concern parts of what they look at, so do those of a keyword: it
-- looks at the same value, at a member, at an item, or at a name.

variable (hv : ∀ {s place x}, s.Local → x.Canonical → ∀ f ∈ visit.findings s place x, f.Within place x)

include hv

theorem ofValue_within (hk : k.Local) (hc : v.Canonical) (hf : f ∈ k.ofValue visit place v) : f.Within place v := by
  cases hk
  case check plain => exact .here (Check.document_of_mem plain hf)
  case reference hs => exact .under (hv hs hc f hf)
  case allOf hb =>
    obtain ⟨⟨s, i⟩, hs, hf⟩ := List.mem_flatMap.mp hf
    exact .under (.under (hv (hb s (List.fst_mem_of_mem_zipIdx hs)) hc f hf))
  case conditional h₁ h₂ =>
    simp only [ofValue] at hf
    split at hf
    case isTrue => exact .under (hv h₁ hc f hf)
    case isFalse => exact .under (hv h₂ hc f hf)
  case anyOf | negation =>
    simp only [ofValue, List.mem_ite_nil_left, List.mem_ite_nil_right, List.mem_singleton] at hf
    exact .here (by simp [hf, Place.under])
  case oneOf =>
    simp only [ofValue] at hf
    split at hf
    case h_2 => simp at hf
    all_goals exact .here (by simp [List.mem_singleton.mp hf, Place.under])
  all_goals simp [ofValue] at hf

theorem ofItems_within (hk : k.Local) (hc : (Json.arr xs).Canonical) (hf : f ∈ k.ofItems visit place xs (.arr xs)) :
    f.Within place (.arr xs) := by
  have .arr hx := hc
  cases hk
  case firstItems hs =>
    obtain ⟨⟨⟨s, x⟩, i⟩, hi, hf⟩ := List.mem_flatMap.mp hf
    have hi := List.mk_mem_zipIdx_iff_getElem?.mp hi
    obtain ⟨hi, hx'⟩ := List.getElem?_zip_eq_some.mp hi
    have hw := hv (hs s (List.mem_of_getElem? hi)) (hx x (List.mem_of_getElem? hx')) f hf
    exact .under (.under (.item hw hx'))
  case items hs =>
    obtain ⟨⟨x, i⟩, hi, hf⟩ := List.mem_flatMap.mp hf
    have hi := List.mk_mem_zipIdx_iff_getElem?.mp (List.mem_of_mem_drop hi)
    have hw := hv hs (hx x (List.mem_of_getElem? hi)) f hf
    exact .under (.item hw hi)
  case contains => exact .here (document_of_mem_contains hf)
  all_goals simp [ofItems] at hf

theorem mixedFindings_within {known : List (String × Schema)} {matching : List (String × Matcher × Schema)}
    {others : Option Schema} {name : String} (hk : ∀ e ∈ known, e.2.Local) (hm : ∀ e ∈ matching, e.2.2.Local)
    (ho : ∀ s ∈ others, s.Local) (hc : x.Canonical)
    (hf : f ∈ mixedFindings visit place known matching others name x) : f.Within (place.down name) x := by
  simp only [mixedFindings] at hf
  split at hf
  case isTrue =>
    split at hf
    case h_1 s => exact .under (hv (ho s rfl) hc f hf)
    case h_2 => simp at hf
  case isFalse =>
    rcases List.mem_append.mp hf with hf | hf
    case inl =>
      obtain ⟨⟨t, s⟩, he, hf⟩ := List.mem_flatMap.mp hf
      simp only [List.mem_map, Option.mem_toList, Prod.mk.injEq] at he
      obtain ⟨_, he, rfl, rfl⟩ := he
      exact .under (.under (hv (hk _ (Keyed.mem_of_find? he)) hc f hf))
    case inr =>
      obtain ⟨⟨t, s⟩, he, hf⟩ := List.mem_flatMap.mp hf
      simp only [matchesOf, List.mem_map, List.mem_filter, Prod.mk.injEq] at he
      obtain ⟨_, ⟨he, _⟩, rfl, rfl⟩ := he
      exact .under (.under (hv (hm _ he) hc f hf))

theorem ofMembers_within (hk : k.Local) (hc : (Json.obj members).Canonical)
    (hf : f ∈ k.ofMembers visit place members (.obj members)) : f.Within place (.obj members) := by
  have .obj sorted values := hc
  cases hk
  case properties hs =>
    obtain ⟨⟨name, s⟩, he, hf⟩ := List.mem_flatMap.mp hf
    dsimp only at hf
    split at hf
    case h_1 x hx => exact .under (.under (.member (hv (hs _ he) (values _ (Keyed.mem_of_find? hx)) f hf) hx))
    case h_2 => simp at hf
  case patternProperties hs =>
    obtain ⟨⟨text, p, s⟩, he, hf⟩ := List.mem_flatMap.mp hf
    obtain ⟨⟨name, x⟩, hm, hf⟩ := List.mem_flatMap.mp hf
    have hm := (List.mem_filter.mp hm).left
    have hw := hv (hs _ he) (values _ hm) f hf
    exact .under (.under (.member hw (Keyed.find?_of_mem sorted hm)))
  case additionalProperties known matching others hk hm ho =>
    have mixed (hf : f ∈ members.flatMap fun m => mixedFindings visit place known matching others m.1 m.2) :
        f.Within place (.obj members) := by
      obtain ⟨⟨name, x⟩, hx, hf⟩ := List.mem_flatMap.mp hf
      have hw := mixedFindings_within hv hk hm ho (values _ hx) hf
      exact .member hw (Keyed.find?_of_mem sorted hx)
    simp only [ofMembers] at hf
    split at hf
    case isTrue =>
      rcases List.mem_append.mp hf with hf | hf
      case inl => exact mixed hf
      case inr => exact .here (by simp [List.mem_singleton.mp hf, Place.under])
    case isFalse => exact mixed hf
  case propertyNames hs =>
    simp only [ofMembers] at hf
    split at hf
    case h_1 =>
      split at hf
      case isTrue => simp at hf
      case isFalse => exact .here (by simp [List.mem_singleton.mp hf, Place.under])
    case h_2 =>
      obtain ⟨⟨name, x⟩, hx, hf⟩ := List.mem_flatMap.mp hf
      exact .name (.under (hv hs .str f hf))
  case dependentSchemas hs =>
    obtain ⟨⟨name, s⟩, he, hf⟩ := List.mem_flatMap.mp hf
    exact .under (.under (hv (hs _ (List.mem_filter.mp he).left) hc f hf))
  case dependencies hs =>
    obtain ⟨⟨name, d⟩, he, hf⟩ := List.mem_flatMap.mp hf
    cases d
    case inl names =>
      obtain ⟨p, _, rfl⟩ := List.mem_map.mp hf
      exact .here rfl
    case inr s => exact .under (.under (hv (hs _ (List.mem_filter.mp he).left s rfl) hc f hf))
  all_goals simp [ofMembers] at hf

theorem findings_within (hk : k.Local) (hc : v.Canonical) (hf : f ∈ k.findings visit siblings place v) :
    f.Within place v := by
  simp only [findings, List.mem_append] at hf
  rcases hf with (hf | hf) | hf
  · exact ofValue_within hv hk hc hf
  · cases v
    case arr => exact ofItems_within hv hk hc hf
    case obj => exact ofMembers_within hv hk hc hf
    all_goals simp at hf
  · exact .here (document_of_mem_rest hf)

end Keyword

namespace Schemas

-- All links of the grammar lead to local schemas.
structure Local (g : Schemas) : Prop where
  root    : g.root.Local
  targets : ∀ e ∈ g.targets, e.2.Local

variable {g : Schemas} {s : Schema}

theorem Local.target (hg : g.Local) (name : String) : (g.target name).Local := by
  rw [Schemas.target]
  cases h : Keyed.find? name g.targets
  case none => exact .always
  case some s => exact hg.targets _ (Keyed.mem_of_find? h)

-- By induction on the visits that are left: a schema hands parts of its value to other schemas.
theorem visit_within (hg : g.Local) {n : Nat} (hs : s.Local) (hc : v.Canonical) :
    ∀ f ∈ g.visit n s place v, f.Within place v := by
  induction n generalizing s place v with
  | zero => simp [visit]
  | succ n hi =>
    intro f hf
    cases hs
    case always => simp [visit] at hf
    case never => exact .here (by simp_all [visit])
    case link t => exact hi (hg.target t) hc f (by simpa only [visit] using hf)
    case all hk =>
      rw [visit] at hf
      obtain ⟨k, hm, hf⟩ := List.mem_flatMap.mp hf
      exact Keyword.findings_within hi (hk k hm) hc hf

-- Whatever is found in a value concerns the value or a part of it.
theorem findings_part (hg : g.Local) (hc : v.Canonical) (hf : f ∈ g.findings v) :
    ∃ x, v.Part f.place.document x := by
  obtain ⟨p, x, hp, hx⟩ := visit_within hg hg.root hc f hf
  exact ⟨x, by simpa [hp] using hx⟩

end Schemas

end ModelForge.Grammar
