import Mathlib.Data.List.Basic
import ModelForge.Name
import ModelForge.Proofs.Text.Uppercase

namespace ModelForge.Name

open Text

variable {s t before after : List Char} {c d : Char}

theorem words_eq (s : List Char) : words s = s.splitOn '-' := by
  induction s with
  | nil => rfl
  | cons c s hi =>
    have ⟨w, ws, hw⟩ := List.exists_cons_of_ne_nil (words_ne_nil s)
    rw [List.splitOn_cons_eq_if_modifyHead, ← hi]
    by_cases hc : c = '-' <;> simp [words, hc, hw]

theorem words_append_dash : words (s ++ '-' :: t) = words s ++ words t := by
  rw [words_eq, words_eq, words_eq, List.splitOn_append_cons_self]

-- The first piece is taken over as it is if its word has begun before.
theorem joinFrom_words (s : List Char) : (joinFrom true s = (words s).flatMap capitalize) ∧
    (joinFrom false s = (words s).headD [] ++ (words s).tail.flatMap capitalize) := by
  induction s with
  | nil => exact ⟨rfl, rfl⟩
  | cons c s hi =>
    have ⟨w, ws, hw⟩ := List.exists_cons_of_ne_nil (words_ne_nil s)
    by_cases hc : c = '-' <;> simp_all [joinFrom, words, capitalize]

theorem canonical_words (s : String) : (canonical s).toList = (words s.toList).flatMap capitalize := by
  rw [canonical, String.toList_ofList, (joinFrom_words _).left]

theorem joinFrom_append_dash : joinFrom true (s ++ '-' :: t) = joinFrom true s ++ joinFrom true t := by
  simp only [(joinFrom_words _).left, words_append_dash, List.flatMap_append]

-- Without dashes a text is one word.
theorem joinFrom_false_of_no_dash (h : '-' ∉ s) : joinFrom false s = s := by
  induction s with
  | nil => rfl
  | cons c s hi =>
    simp only [List.mem_cons, not_or] at h
    simp [joinFrom, Ne.symm h.left, hi h.right]

theorem joinFrom_of_no_dash (h : '-' ∉ s) : joinFrom true s = capitalize s := by
  cases s with
  | nil => rfl
  | cons c s =>
    simp only [List.mem_cons, not_or] at h
    simp [joinFrom, capitalize, Ne.symm h.left, joinFrom_false_of_no_dash h.right]

-- Words that are joined begin with a capital form, which has no other one.
theorem capitalize_joinFrom (s : List Char) : capitalize (joinFrom true s) = joinFrom true s := by
  induction s with
  | nil => rfl
  | cons c s hi =>
    by_cases hc : c = '-'
    case pos => simpa [joinFrom, hc] using hi
    case neg =>
      obtain ⟨d, rest, hu, hd⟩ := Text.exists_cons_uppercase c
      simp [joinFrom, hc, hu, capitalize, hd]

-- A canonical form is that of itself.
theorem canonical_canonical_of_no_dash {s : String} (h : '-' ∉ (canonical s).toList) :
    canonical (canonical s) = canonical s := by
  have hj : joinFrom true (canonical s).toList = (canonical s).toList := by
    rw [joinFrom_of_no_dash h, canonical, String.toList_ofList, capitalize_joinFrom]
  rw [canonical, hj, String.ofList_toList]

theorem expansions_no_dash : ∀ e ∈ caseExpansions, '-' ∉ e.2.map Char.ofNat := by
  decide +kernel

theorem dash_notMem_capitalPoints : '-'.toNat ∉ capitalPoints := by
  decide +kernel

-- No capital form of another character has a dash in it.
theorem dash_mem_uppercase_iff : ('-' ∈ uppercase c) ↔ (c = '-') := by
  constructor
  · intro h
    generalize hu : uppercase c = u at h
    cases hu ▸ capitalizes_uppercase c with
    | expansion listed => exact absurd h (expansions_no_dash _ listed)
    | run listed point =>
      have hp := capitalPoint_of_run listed point
      rw [← toNat_of_capitalPoint hp, ← List.mem_singleton.mp h] at hp
      exact absurd hp dash_notMem_capitalPoints
    | own => exact List.mem_singleton.mp h |>.symm
  · intro h
    rw [h]
    decide

theorem dash_notMem_joinFrom (start : Bool) (s : List Char) : '-' ∉ joinFrom start s := by
  induction s generalizing start with
  | nil => simp [joinFrom]
  | cons c s hi =>
    by_cases hc : c = '-'
    case pos => simpa [joinFrom, hc] using hi true
    case neg => cases start <;> simp [joinFrom, hc, hi, dash_mem_uppercase_iff, Ne.symm hc]

-- A place where a word may begin.
def AtWord (before : List Char) : Prop := (before = []) ∨ (before.getLast? = some '-')

theorem joinFrom_append_of_atWord (h : AtWord before) :
    joinFrom true (before ++ t) = joinFrom true before ++ joinFrom true t := by
  cases h with
  | inl h => simp [h, joinFrom]
  | inr h =>
    obtain ⟨s, rfl⟩ := List.getLast?_eq_some_iff.mp h
    rw [List.append_assoc, List.singleton_append, joinFrom_append_dash, joinFrom_append_dash]
    simp [joinFrom]

-- What the canonical form makes of a name.
structure Wordwise (s : String) : Prop where
  pieces  : (canonical s).toList = (s.toList.splitOn '-').flatMap capitalize
  append  : ∀ t, canonical (s ++ "-" ++ t) = canonical s ++ canonical t
  initial : ∀ before c d after, (s.toList = before ++ c :: after) → (AtWord before) → (c ≠ '-') →
              (uppercase d = uppercase c) → canonical (.ofList (before ++ d :: after)) = canonical s
  no_dash : '-' ∉ (canonical s).toList
  again   : canonical (canonical s) = canonical s

theorem canonical_wordwise (s : String) : Wordwise s := by
  have no_dash : '-' ∉ (canonical s).toList := by
    rw [canonical, String.toList_ofList]
    exact dash_notMem_joinFrom _ _
  exact {
    pieces := by
      rw [canonical_words, words_eq]
    append t := by
      simp [canonical, joinFrom_append_dash]
    initial before c d after hs hb hc hu := by
      have hd : d ≠ '-' := by
        rw [Ne, ← dash_mem_uppercase_iff, hu, dash_mem_uppercase_iff]
        exact hc
      simp [canonical, hs, joinFrom_append_of_atWord hb, joinFrom, hc, hd, hu]
    no_dash
    again := canonical_canonical_of_no_dash no_dash }

example : canonical "ŉ--ßeta-ǆ" = "ʼNSSetaǄ" := by
  decide +kernel

end ModelForge.Name
