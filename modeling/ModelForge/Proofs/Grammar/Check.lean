import Mathlib.Data.Int.Order.Basic
import Mathlib.Data.List.Nodup
import ModelForge.Grammar.Check
import ModelForge.Proofs.Grammar.Model

namespace ModelForge

variable {v : Json} {s : String}

namespace Json

@[simp]
theorem same_str : (str s).same v = true ↔ v = .str s := by
  cases v with
  | str s' => simp only [same, beq_iff_eq, str.injEq]; exact eq_comm
  | _ => simp [same]

end Json

namespace Number

theorem compare_int {m n : Int} : (int m).compare (int n) = Ord.compare m n := rfl

theorem same_iff {m n : Number} : m.same n = true ↔ m.compare n = .eq := by
  simp [same]

-- The numerator of a floating-point number with its sign.
def signed (x : Decimal.Binary64) : Int := (if x.negative then -1 else 1) * x.numerator

theorem compare_real_int {x : Decimal.Binary64} {n : Int} :
    (real x).compare (int n) = Ord.compare (signed x) (n * x.denominator) := by
  simp [compare, Decimal.Binary64.compareRatio, signed]

theorem natAbs_signed {x : Decimal.Binary64} : (signed x).natAbs = x.numerator := by
  rw [signed]
  split <;> simp

-- The whole numbers that are not negative are the natural ones.
theorem exists_same_nat (n : Number) :
    (∃ k : Nat, n.same (.int k) = true) ↔ n.isWhole = true ∧ n.compare (.int 0) ≠ .lt := by
  simp only [same_iff]
  cases n with
  | int m =>
    simp only [compare_int, compare_eq_iff_eq, isWhole, true_and, ne_eq, compare_lt_iff_lt, Int.not_lt]
    exact ⟨fun ⟨k, h⟩ => by omega, fun h => ⟨m.toNat, by omega⟩⟩
  | real x =>
    have hs := natAbs_signed (x := x)
    simp only [compare_real_int, compare_eq_iff_eq, isWhole, ne_eq, compare_lt_iff_lt, Int.not_lt, Int.zero_mul,
      Decimal.Binary64.isWhole, decide_eq_true_eq]
    constructor
    -- Without its sign, the numerator is the same multiple of the denominator.
    · intro ⟨k, h⟩
      have hn : x.numerator = k * x.denominator := by rw [← hs, h]; exact Int.natAbs_natCast _
      exact ⟨by simp [hn], h ▸ Int.natCast_nonneg (k * x.denominator)⟩
    · intro ⟨hw, h⟩
      have hn := Nat.div_mul_cancel <| Nat.dvd_of_mod_eq_zero hw
      refine ⟨x.numerator / x.denominator, ?_⟩
      rw [← Int.natCast_mul, hn]
      omega

end Number

namespace Grammar

theorem problemIf_eq_nil {b : Bool} {p : Problem} : problemIf b p = [] ↔ b = false := by
  cases b <;> simp [problemIf]

namespace Kind

attribute [local simp] admits

theorem admits_string : string.admits v = true ↔ v.IsText := by
  cases v <;> simp [Json.IsText]

theorem admits_boolean : boolean.admits v = true ↔ v.IsBool := by
  cases v <;> simp [Json.IsBool]

theorem admits_number : number.admits v = true ↔ v.IsNumber := by
  cases v <;> simp [Json.IsNumber]

theorem admits_array : array.admits v = true ↔ v.IsArray := by
  cases v <;> simp [Json.IsArray]

theorem admits_object : object.admits v = true ↔ ∃ members, v = .obj members := by
  cases v <;> simp

theorem name_injective : Function.Injective name := by
  intro j k h
  cases j <;> cases k <;> first | rfl | simp [name] at h

end Kind

namespace Check

attribute [local simp] problems ofKind ofNumber ofString ofItems ofMembers problemIf_eq_nil

theorem problems_kind {k : Kind} : (kind [k]).problems v = [] ↔ k.admits v = true := by
  simp

theorem problems_const : (const (.str s)).problems v = [] ↔ v = .str s := by
  simp [isConst]

theorem problems_enum {names : List String} :
    (enum (names.map .str)).problems v = [] ↔ ∃ name ∈ names, v = .str name := by
  simp

theorem problems_minLength : (minLength 1).problems v = [] ↔ ∀ s, v = .str s → s ≠ "" := by
  cases v <;> simp

theorem problems_minItems : (minItems 1).problems v = [] ↔ ∀ xs, v = .arr xs → xs ≠ [] := by
  cases v <;> simp

theorem problems_minimum : (minimum (.int 0)).problems v = [] ↔
    ∀ n, v = .num n → n.compare (.int 0) ≠ .lt := by
  cases v <;> simp

theorem problems_uniqueItems : uniqueItems.problems v = [] ↔ ∀ xs, v = .arr xs → hasRepeated xs = false := by
  cases v <;> simp

theorem problems_required {names : List String} : (required names).problems v = [] ↔
    ∀ members, v = .obj members → ∀ name ∈ names, Json.IsPresent members name := by
  cases v <;> simp [missingFrom, Keyed.contains, Json.IsPresent, Option.eq_none_iff_forall_ne_some]

end Check

theorem hasRepeated_map_str {f : α → String} (hf : Function.Injective f) {as : List α} :
    hasRepeated (as.map (.str <| f ·)) = false ↔ as.Nodup := by
  induction as with
  | nil => simp [hasRepeated]
  | cons a as hi => simp [hasRepeated, hi, hf.eq_iff, List.forall_mem_ne']

theorem eq_map_iff {f : α → β} {p : α → Prop} {xs : List β} :
    (∀ x ∈ xs, ∃ a, x = f a ∧ p a) ↔ ∃ as : List α, xs = as.map f ∧ ∀ a ∈ as, p a := by
  constructor
  · intro h
    induction xs with
    | nil => exact ⟨[], rfl, by simp⟩
    | cons x xs hi =>
      obtain ⟨⟨a, ha, hp⟩, h⟩ := List.forall_mem_cons.mp h
      obtain ⟨as, has, hps⟩ := hi h
      exact ⟨a :: as, by rw [List.map_cons, ha, has], List.forall_mem_cons.mpr ⟨hp, hps⟩⟩
  · intro ⟨as, h, hp⟩ x hx
    subst h
    obtain ⟨a, ha, rfl⟩ := List.mem_map.mp hx
    exact ⟨a, rfl, hp a ha⟩

-- Lists of different texts, each the text of something.
theorem different_texts_iff {f : α → String} (hf : Function.Injective f) (p : α → Prop) (xs : List Json) :
    ((∀ x ∈ xs, ∃ a, x = .str (f a) ∧ p a) ∧ hasRepeated xs = false) ↔
    ∃ as : List α, xs = as.map (.str <| f ·) ∧ as.Nodup ∧ ∀ a ∈ as, p a := by
  rw [eq_map_iff]
  constructor
  · intro ⟨⟨as, h, hp⟩, hr⟩
    subst h
    exact ⟨as, rfl, hasRepeated_map_str hf |>.mp hr, hp⟩
  · intro ⟨as, h, hd, hp⟩
    subst h
    exact ⟨⟨as, rfl, hp⟩, hasRepeated_map_str hf |>.mpr hd⟩

end Grammar

end ModelForge
