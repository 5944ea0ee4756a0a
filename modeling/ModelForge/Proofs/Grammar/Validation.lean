import Mathlib.Data.List.Forall2
import ModelForge.Grammar.Validation
import ModelForge.Proofs.Grammar.Model
import ModelForge.Proofs.Keyed

namespace ModelForge

namespace Json

variable {items : List Json} {members : List (String × Json)} {name : String} {x : Json}

attribute [local simp] depth depthItems depthMembers

theorem depth_lt_arr (h : x ∈ items) : x.depth < (arr items).depth := by
  suffices x.depth ≤ depthItems items by rw [depth]; omega
  induction h with
  | head => rw [depthItems]; omega
  | tail _ _ hi => rw [depthItems]; omega

theorem depth_lt_obj {m : String × Json} (h : m ∈ members) : m.2.depth < (obj members).depth := by
  suffices m.2.depth ≤ depthMembers members by rw [depth]; omega
  induction h with
  | head => rw [depthMembers]; omega
  | tail _ _ hi => rw [depthMembers]; omega

theorem depth_pos (v : Json) : 0 < v.depth := by
  cases v <;> simp

end Json

namespace Grammar

-- How a keyword looks at values when so many visits are left.
def Schemas.visitor (g : Schemas) (n : Nat) : Visitor := ⟨g.visit n, g.names n, g.positions n⟩

-- With so many visits or more, a schema finds nothing in exactly the values with a property. This is
-- told of values up to a depth only, so that the parts of a value need fewer visits than the value.
def Schemas.Decides (g : Schemas) (depth visits : Nat) (s : Schema) (P : Json → Prop) : Prop :=
  ∀ n ≥ visits, ∀ place v, v.depth ≤ depth → (g.visit n s place v = [] ↔ P v)

def Keyword.Decides (g : Schemas) (depth visits : Nat) (k : Keyword) (P : Json → Prop) : Prop :=
  ∀ n ≥ visits, ∀ siblings place v, v.depth ≤ depth →
    (k.findings (g.visitor n) siblings place v = [] ↔ P v)

theorem forall_iff {p : α → Prop} {q : β → Prop} (h : List.Forall₂ (fun a b => p a ↔ q b) as bs) :
    (∀ a ∈ as, p a) ↔ ∀ b ∈ bs, q b := by
  induction h with
  | nil => simp
  | cons h _ hi => rw [List.forall_mem_cons, List.forall_mem_cons, h, hi]

theorem exists_iff {p : α → Prop} {q : β → Prop} (h : List.Forall₂ (fun a b => p a ↔ q b) as bs) :
    (∃ a ∈ as, p a) ↔ ∃ b ∈ bs, q b := by
  induction h with
  | nil => simp
  | cons h _ hi => rw [List.exists_mem_cons_iff, List.exists_mem_cons_iff, h, hi]

variable {g : Schemas} {depth visits : Nat} {k : Keyword} {s s₁ s₂ : Schema} {P P₁ P₂ Q : Json → Prop}

namespace Schemas

namespace Decides

attribute [local simp] visit

theorem shallower {depth' : Nat} (h : g.Decides depth' visits s P) (hd : depth ≤ depth' := by omega) :
    g.Decides depth visits s P :=
  fun n hn place v hp => h n hn place v <| Nat.le_trans hp hd

theorem congr (h : g.Decides depth visits s P) (e : ∀ v, P v ↔ Q v) : g.Decides depth visits s Q :=
  fun n hn place v hp => h n hn place v hp |>.trans <| e v

-- No value is that flat.
theorem flat : g.Decides 0 visits s P :=
  fun _ _ _ v hp => absurd hp <| Nat.not_le.mpr v.depth_pos

theorem accepts (h : g.Decides depth visits s P) {n : Nat} (hn : n ≥ visits) {v : Json}
    (hp : v.depth ≤ depth) : (g.visitor n).accepts s v ↔ P v := by
  rw [Visitor.accepts, List.isEmpty_iff]
  exact h n hn {} v hp

theorem always : g.Decides depth visits .always fun _ => True := by
  intro n _ place v _
  cases n <;> simp

theorem link {target : String} (h : g.Decides depth visits (g.target target) P) :
    g.Decides depth (visits + 1) (.link target) P := by
  intro n hn place v hp
  obtain ⟨n, rfl⟩ : ∃ m, n = m + 1 := ⟨n - 1, by omega⟩
  rw [visit]
  exact h n (by omega) place v hp

-- A schema holds where all its keywords do.
theorem all {ks : List Keyword} {Ps : List (Json → Prop)}
    (h : List.Forall₂ (Keyword.Decides g depth visits) ks Ps) :
    g.Decides depth (visits + 1) (.all ks) fun v => ∀ P ∈ Ps, P v := by
  intro n hn place v hp
  obtain ⟨n, rfl⟩ : ∃ m, n = m + 1 := ⟨n - 1, by omega⟩
  rw [visit, List.flatMap_eq_nil_iff]
  exact forall_iff <| h.imp fun k P hk => hk n (by omega) ks place v hp

end Decides

end Schemas

namespace Keyword

variable {visit : Visitor} {siblings : List Keyword} {place : Place} {v : Json} {xs : List Json}
  {members : List (String × Json)}

attribute [local simp] findings

-- Most keywords look at the value itself or at its parts, not at both.
theorem findings_value (hi : ∀ xs, k.ofItems visit place xs v = []) (hm : ∀ ms, k.ofMembers visit place ms v = [])
    (hr : k.ofRest visit siblings place v = []) :
    k.findings visit siblings place v = k.ofValue visit place v := by
  cases v <;> simp [hi, hm, hr]

attribute [local simp] ofValue ofItems ofMembers ofRest

theorem findings_arr (hv : k.ofValue visit place (.arr xs) = [])
    (hr : k.ofRest visit siblings place (.arr xs) = []) :
    k.findings visit siblings place (.arr xs) = k.ofItems visit place xs (.arr xs) := by
  rw [findings, hv, hr, List.nil_append, List.append_nil]

theorem findings_obj (hv : k.ofValue visit place (.obj members) = [])
    (hr : k.ofRest visit siblings place (.obj members) = []) :
    k.findings visit siblings place (.obj members) = k.ofMembers visit place members (.obj members) := by
  rw [findings, hv, hr, List.nil_append, List.append_nil]

theorem Decides.congr (h : k.Decides g depth visits P) (e : ∀ v, P v ↔ Q v) : k.Decides g depth visits Q :=
  fun n hn siblings place v hp => h n hn siblings place v hp |>.trans <| e v

theorem Decides.check (c : Check) : (check c).Decides g depth visits fun v => c.problems v = [] := by
  intro n _ siblings place v _
  rw [findings_value (fun _ => rfl) (fun _ => rfl) rfl]
  simp only [ofValue, Check.findings, List.map_eq_nil_iff]

theorem Decides.reference {keyword : String} (h : g.Decides depth visits s P) :
    (reference keyword s).Decides g depth visits P := by
  intro n hn siblings place v hp
  rw [findings_value (fun _ => rfl) (fun _ => rfl) rfl]
  exact h n hn _ v hp

theorem Decides.anyOf {branches : List Schema} {Ps : List (Json → Prop)}
    (h : List.Forall₂ (g.Decides depth visits) branches Ps) :
    (anyOf branches).Decides g depth visits fun v => ∃ P ∈ Ps, P v := by
  intro n hn siblings place v hp
  have e : (∃ s ∈ branches, (g.visitor n).accepts s v = true) ↔ ∃ P ∈ Ps, P v :=
    exists_iff <| h.imp fun s P hs => hs.accepts hn hp
  rw [findings_value (fun _ => rfl) (fun _ => rfl) rfl]
  exact Iff.trans (by simp) e

-- Two branches that never hold together.
theorem Decides.oneOf (h₁ : g.Decides depth visits s₁ P₁) (h₂ : g.Decides depth visits s₂ P₂)
    (apart : ∀ v, P₁ v → ¬P₂ v) : (oneOf [s₁, s₂]).Decides g depth visits fun v => P₁ v ∨ P₂ v := by
  intro n hn siblings place v hp
  have h₁ := h₁.accepts hn hp
  have h₂ := h₂.accepts hn hp
  have apart := apart v
  rw [findings_value (fun _ => rfl) (fun _ => rfl) rfl]
  simp only [ofValue, List.countP_cons]
  rw [← h₁, ← h₂] at apart ⊢
  cases e₁ : (g.visitor n).accepts s₁ v <;> cases e₂ : (g.visitor n).accepts s₂ v <;> simp [e₁, e₂] at apart ⊢

theorem Decides.items {keyword : String} (h : g.Decides (depth - 1) visits s P) :
    (items keyword 0 s).Decides g depth visits fun v => ∀ xs, v = .arr xs → ∀ x ∈ xs, P x := by
  intro n hn siblings place v hp
  cases v
  case arr xs =>
    rw [findings_arr rfl rfl]
    simp only [ofItems, itemFindings, List.drop_zero, List.flatMap_eq_nil_iff, Json.arr.injEq, forall_eq']
    calc (∀ e ∈ xs.zipIdx, g.visit n s ((place.under keyword).down (toString e.2)) e.1 = [])
      _ ↔ ∀ e ∈ xs.zipIdx, P e.1 := forall₂_congr fun e he => by
        have := Json.depth_lt_arr <| List.fst_mem_of_mem_zipIdx he
        exact h n hn _ e.1 (by omega)
      _ ↔ ∀ x ∈ xs.zipIdx.map Prod.fst, P x := List.forall_mem_map.symm
      _ ↔ ∀ x ∈ xs, P x := by rw [List.zipIdx_map_fst]
  all_goals simp

-- Members under known names, each decided by the schema for its name.
theorem Decides.properties {known : List (String × Schema)} {fields : List (String × (Json → Prop))}
    (h : List.Forall₂ (fun k f => k.1 = f.1 ∧ g.Decides (depth - 1) visits k.2 f.2) known fields) :
    (properties known).Decides g depth visits fun v =>
      ∀ members, v = .obj members → ∀ f ∈ fields, Json.WherePresent members f.1 f.2 := by
  intro n hn siblings place v hp
  cases v
  case obj members =>
    rw [findings_obj rfl rfl]
    simp only [ofMembers, List.flatMap_eq_nil_iff, Json.obj.injEq, forall_eq']
    refine forall_iff <| h.imp fun k f hk => ?_
    obtain ⟨name, s⟩ := k
    obtain ⟨name', P⟩ := f
    obtain ⟨rfl, hs⟩ : name = name' ∧ _ := hk
    dsimp only
    rw [Json.WherePresent]
    cases hf : Keyed.find? name members
    case none => simp
    case some x =>
      have : x.depth < _ := Json.depth_lt_obj <| Keyed.mem_of_find? hf
      simpa [Schemas.visitor] using hs n hn _ x (by omega)
  all_goals simp

theorem Decides.additionalProperties (h : g.Decides (depth - 1) visits s P) :
    (additionalProperties [] [] (some s)).Decides g depth visits fun v =>
      ∀ members, v = .obj members → ∀ m ∈ members, P m.2 := by
  intro n hn siblings place v hp
  cases v
  case obj members =>
    rw [findings_obj rfl rfl]
    simp only [ofMembers, Option.isNone_some, Bool.false_and, Bool.false_eq_true, if_false,
      List.flatMap_eq_nil_iff, Json.obj.injEq, forall_eq']
    refine forall₂_congr fun m hm => ?_
    have := Json.depth_lt_obj hm
    exact h n hn _ m.2 (by omega)
  all_goals simp

end Keyword
end Grammar
end ModelForge
