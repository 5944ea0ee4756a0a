import Mathlib.Data.List.Forall2
import ModelForge.Language

namespace ModelForge

namespace Text

-- The same character, or one ASCII letter in its two forms.
inductive SameLetter : Char → Char → Prop
  | same {c : Char} : SameLetter c c
  | small {c d : Char} (capital : c.isUpper) (distance : d.toNat = c.toNat + 32) : SameLetter c d
  | capital {c d : Char} (capital : d.isUpper) (distance : c.toNat = d.toNat + 32) : SameLetter c d

-- Texts that differ in the case of ASCII letters at most.
def SameUpToCase (s t : String) : Prop := List.Forall₂ SameLetter s.toList t.toList

variable {c d : Char} {s t : String}

theorem isUpper_iff : (c.isUpper) ↔ (65 ≤ c.toNat) ∧ (c.toNat ≤ 90) := decide_eq_true_iff

theorem isLower_iff : (c.isLower) ↔ (97 ≤ c.toNat) ∧ (c.toNat ≤ 122) :=
  Bool.and_eq_true_iff.trans (and_congr decide_eq_true_iff decide_eq_true_iff)

theorem isAlpha_iff : (c.isAlpha) ↔ (c.isUpper) ∨ (c.isLower) := Bool.or_eq_true_iff

theorem toNat_toLower (h : c.isUpper) : c.toLower.toNat = c.toNat + 32 := by
  have hn := isUpper_iff.mp h
  have hv : c.toLower.val = c.val + 32 := congrArg Char.val <| dif_pos <| decide_eq_true_iff.mp h
  rw [← Char.toNat_val, hv, UInt32.toNat_add, Char.toNat_val]
  exact Nat.mod_eq_of_lt (by simp only [UInt32.reduceToNat]; omega)

theorem toLower_of_not_isUpper (h : ¬c.isUpper) : c.toLower = c :=
  dif_neg (mt decide_eq_true_iff.mpr h)

-- What is 32 places behind a capital letter is a small one.
theorem isLower_of_distance (h : c.isUpper) (hd : d.toNat = c.toNat + 32) : d.isLower := by
  rw [isUpper_iff] at h
  rw [isLower_iff]
  omega

theorem not_isUpper_of_isLower (h : c.isLower) : ¬c.isUpper := by
  rw [isLower_iff] at h
  rw [isUpper_iff]
  omega

theorem toLower_eq_of_distance (h : c.isUpper) (hd : d.toNat = c.toNat + 32) : c.toLower = d.toLower := by
  have hn := not_isUpper_of_isLower (isLower_of_distance h hd)
  rw [toLower_of_not_isUpper hn, ← Char.toNat_inj, toNat_toLower h, hd]

theorem sameLetter_iff : (SameLetter c d) ↔ (c.toLower = d.toLower) := by
  constructor
  · intro h
    cases h with
    | same => rfl
    | small capital distance => exact toLower_eq_of_distance capital distance
    | capital capital distance => exact toLower_eq_of_distance capital distance |>.symm
  · intro h
    rw [← Char.toNat_inj] at h
    by_cases hc : c.isUpper <;> by_cases hd : d.isUpper
    · rw [toNat_toLower hc, toNat_toLower hd, Nat.add_right_cancel_iff, Char.toNat_inj] at h
      exact h ▸ .same
    · rw [toNat_toLower hc, toLower_of_not_isUpper hd] at h
      exact .small hc h.symm
    · rw [toLower_of_not_isUpper hc, toNat_toLower hd] at h
      exact .capital hd h
    · rw [toLower_of_not_isUpper hc, toLower_of_not_isUpper hd, Char.toNat_inj] at h
      exact h ▸ .same

-- Only letters have two forms.
theorem SameLetter.eq_of_not_isAlpha (h : SameLetter c d) (hc : ¬c.isAlpha) : c = d := by
  cases h with
  | same => rfl
  | small capital => exact absurd (isAlpha_iff.mpr (.inl capital)) hc
  | capital capital distance => exact absurd (isAlpha_iff.mpr (.inr (isLower_of_distance capital distance))) hc

theorem sameUpToCase_iff : (SameUpToCase s t) ↔ (s.toList.map Char.toLower = t.toList.map Char.toLower) := by
  rw [← List.forall₂_eq_eq_eq, List.forall₂_map_left_iff, List.forall₂_map_right_iff]
  simp only [SameUpToCase, ← sameLetter_iff]

theorem SameUpToCase.exists_of_mem (h : SameUpToCase s t) (hc : c ∈ s.toList) : ∃ d ∈ t.toList, SameLetter c d := by
  have hm : c.toLower ∈ t.toList.map Char.toLower := sameUpToCase_iff.mp h ▸ List.mem_map_of_mem hc
  have ⟨d, hd, he⟩ := List.mem_map.mp hm
  exact ⟨d, hd, sameLetter_iff.mpr he.symm⟩

end Text

namespace Language

open Text

-- What a token comes to.
structure Resolution (t : String) : Prop where
  accepted : ∀ l, (resolve t = .ok l) ↔ (SameUpToCase t l.canonicalName)
  unique   : ∀ l l' : Language, (SameUpToCase t l.canonicalName) → (SameUpToCase t l'.canonicalName) → l = l'
  refused  : ∀ e, (resolve t = .error e) ↔ (e = ⟨t⟩) ∧ (∀ l : Language, ¬SameUpToCase t l.canonicalName)
  -- Blanks, and whatever else has no place in a canonical name, such as a letter from outside of ASCII.
  foreign  : ∀ c ∈ t.toList, (¬c.isAlpha) → (c ∉ ['#', '+', '-']) → resolve t = .error ⟨t⟩

variable {l : Language} {t : String}

theorem ofToken?_canonicalName (l : Language) : ofToken? l.canonicalName = some l := by
  cases l <;> decide

-- The token of a language is its canonical name in small letters.
theorem foldCase_of_ofSmallToken? (h : ofSmallToken? t = some l) : t.toList = foldCase l.canonicalName := by
  simp only [ofSmallToken?] at h
  split at h <;> cases h <;> rfl

theorem ofToken?_eq_some_iff : (ofToken? t = some l) ↔ (SameUpToCase t l.canonicalName) := by
  rw [sameUpToCase_iff]
  constructor
  · intro h
    have hf := foldCase_of_ofSmallToken? h
    rwa [String.toList_ofList] at hf
  · intro h
    rw [← ofToken?_canonicalName l, ofToken?, ofToken?, foldCase, foldCase, h]

theorem canonicalName_plain (l : Language) : ∀ c ∈ l.canonicalName.toList, c.isAlpha ∨ c ∈ ['#', '+', '-'] := by
  cases l <;> simp [canonicalName]

theorem plain_of_sameUpToCase {c : Char} (h : SameUpToCase t l.canonicalName) (hc : c ∈ t.toList) :
    c.isAlpha ∨ c ∈ ['#', '+', '-'] := by
  have ⟨d, hd, hs⟩ := h.exists_of_mem hc
  by_cases ha : c.isAlpha
  case pos => exact .inl ha
  case neg =>
    obtain rfl := hs.eq_of_not_isAlpha ha
    exact l.canonicalName_plain c hd

theorem resolve_eq_error_iff {e : UnsupportedLanguage} :
    (resolve t = .error e) ↔ (e = ⟨t⟩) ∧ (∀ l : Language, ¬SameUpToCase t l.canonicalName) := by
  simp only [← ofToken?_eq_some_iff, resolve]
  cases ofToken? t <;> simp [eq_comm]

-- The names that tokens are compared with are those that languages are shown by.
theorem resolve_canonicalName (t : String) : Resolution t where
  accepted l := by
    rw [← ofToken?_eq_some_iff, resolve]
    cases ofToken? t <;> simp
  unique l l' h h' := by
    rw [← ofToken?_eq_some_iff] at h h'
    exact Option.some.inj (h.symm.trans h')
  refused _ := resolve_eq_error_iff
  foreign c hc ha hs := resolve_eq_error_iff.mpr ⟨rfl, fun _ h => plain_of_sameUpToCase h hc |>.elim ha hs⟩

-- The Kelvin sign is no K.
example : resolve "\u212Aotlin" = .error ⟨"\u212Aotlin"⟩ := by
  decide

end Language

end ModelForge
