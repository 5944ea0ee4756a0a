import Mathlib.Data.List.Basic
import ModelForge.Proofs.Text.Uppercase
import ModelForge.Text.Letters

namespace ModelForge.Text

namespace Ranges

variable {rs : Ranges} {n : Nat}

-- The code points in ranges as the bits of one number.
def bits : Ranges → Nat
  | [] => 0
  | r :: rs => (Nat.pow 2 (r.2 + 1 - r.1) - 1) <<< r.1 ||| bits rs

theorem exists_of_testBit (h : rs.bits.testBit n) : ∃ r ∈ rs, (r.1 ≤ n) ∧ (n ≤ r.2) := by
  induction rs with
  | nil => simp [bits] at h
  | cons r rs hi =>
    rw [bits, Nat.testBit_or, Bool.or_eq_true] at h
    cases h
    case inl h =>
      rw [Nat.testBit_shiftLeft, Nat.pow_eq, Nat.testBit_two_pow_sub_one] at h
      simp only [Bool.and_eq_true, decide_eq_true_eq] at h
      exact ⟨r, List.mem_cons_self, by omega⟩
    case inr h =>
      have ⟨r', hm, hn⟩ := hi h
      exact ⟨r', List.mem_cons_of_mem _ hm, hn⟩

-- Nothing is overlooked where the ranges stand in their order.
theorem contains_of_mem {r : Nat × Nat} (sorted : rs.Pairwise (·.1 ≤ ·.1)) (h : r ∈ rs) (hn : (r.1 ≤ n) ∧ (n ≤ r.2)) :
    rs.contains n := by
  induction rs with
  | nil => cases h
  | cons r' rs hi =>
    have ⟨first, sorted⟩ := List.pairwise_cons.mp sorted
    have hl : r'.1 ≤ n := by
      cases h with
      | head => exact hn.left
      | tail _ h => exact Nat.le_trans (first r h) hn.left
    rw [contains, if_neg (Nat.not_lt.mpr hl), Bool.or_eq_true, decide_eq_true_eq]
    cases h with
    | head => exact .inl hn.right
    | tail _ h => exact .inr (hi sorted h)

end Ranges

theorem alphabeticRanges_sorted : alphabeticRanges.Pairwise (·.1 ≤ ·.1) := by
  have hc : alphabeticRanges.IsChain fun r r' : Nat × Nat => r.1 ≤ r'.1 := by decide +kernel
  have : IsTrans (Nat × Nat) fun r r' => r.1 ≤ r'.1 := ⟨fun _ _ _ => Nat.le_trans⟩
  exact List.isChain_iff_pairwise.mp hc

-- Too many letters have two forms for each to be looked for among the ranges.
theorem bits_letters : bits (smallPoints ++ capitalPoints) &&& alphabeticRanges.bits = bits (smallPoints ++ capitalPoints) := by
  decide +kernel

variable {c d : Char} {rest : List Char}

-- What has a capital form is a letter, and so is what a capital form begins with.
theorem isAlphabetic_of_mem (h : c.toNat ∈ smallPoints ++ capitalPoints) : isAlphabetic c := by
  have hb := testBit_bits.mpr h
  rw [← bits_letters, Nat.testBit_and, Bool.and_eq_true] at hb
  have ⟨_, hm, hn⟩ := Ranges.exists_of_testBit hb.right
  exact Ranges.contains_of_mem alphabeticRanges_sorted hm hn

theorem isAlphabetic_of_smallPoint (h : c.toNat ∈ smallPoints) : isAlphabetic c :=
  isAlphabetic_of_mem (List.mem_append_left _ h)

theorem isAlphabetic_of_capitalPoint {n : Nat} (h : n ∈ capitalPoints) : isAlphabetic (Char.ofNat n) :=
  isAlphabetic_of_mem (List.mem_append_right _ (by rwa [toNat_of_capitalPoint h]))

theorem isAlphabetic_of_uppercase_ne (h : uppercase c = d :: rest) (hn : uppercase c ≠ [c]) :
    (isAlphabetic c) ∧ (isAlphabetic d) := by
  have ⟨hs, n, hc, _, hu⟩ := (uppercase_cases c).resolve_left hn
  rw [(List.cons.inj (h.symm.trans hu)).left]
  exact ⟨isAlphabetic_of_smallPoint hs, isAlphabetic_of_capitalPoint hc⟩

end ModelForge.Text
