import ModelForge.Proofs.Name
import ModelForge.Proofs.Output
import ModelForge.Proofs.Text.Letters

namespace ModelForge

namespace Name

open Text

-- A name without its dashes.
def undashed (s : List Char) : List Char := s.filter (· ≠ '-')

-- The characters that words begin with.
def initials (s : List Char) : List Char := (words s).filterMap List.head?

-- The letters whose capital form has combining marks that are neither letters nor digits.
def markedPoints : List Nat := [
  0x1F0, 0x390, 0x3B0, 0x1E96, 0x1E97, 0x1E98, 0x1E99, 0x1F50, 0x1F52, 0x1F54, 0x1F56, 0x1FB6, 0x1FB7, 0x1FC6,
  0x1FC7, 0x1FD2, 0x1FD3, 0x1FD6, 0x1FD7, 0x1FE2, 0x1FE3, 0x1FE4, 0x1FE6, 0x1FE7, 0x1FF6, 0x1FF7]

variable {s rest : List Char} {c d : Char}

theorem undashed_eq (s : List Char) : undashed s = (words s).flatten := by
  induction s with
  | nil => rfl
  | cons c s hi =>
    have ⟨w, ws, hw⟩ := List.exists_cons_of_ne_nil (words_ne_nil s)
    by_cases hc : c = '-' <;> simp_all [undashed, words]

theorem isIdentifierChars_iff : (isIdentifierChars s) ↔
    (∃ c ∈ s.head?, startsIdentifier c) ∧ (∀ c ∈ s, continuesIdentifier c) := by
  cases s with
  | nil => simp [isIdentifierChars]
  | cons c s =>
    have hc := @continuesIdentifier_of_starts c
    simp only [isIdentifierChars, Bool.and_eq_true, List.all_eq_true, List.head?_cons, Option.mem_some_iff,
      exists_eq_left', List.forall_mem_cons]
    exact and_congr_right fun h => (and_iff_right (hc h)).symm

-- Whether a character begins an identifier does not change with its case.
theorem startsIdentifier_iff_of_uppercase (h : uppercase c = d :: rest) : (startsIdentifier d) ↔ (startsIdentifier c) := by
  by_cases hc : uppercase c = [c]
  case pos => rw [(List.cons.inj (h.symm.trans hc)).left]
  case neg =>
    have ⟨hc, hd⟩ := isAlphabetic_of_uppercase_ne h hc
    simp [startsIdentifier, hc, hd]

theorem continuesIdentifier_of_uppercase (h : ∀ d ∈ uppercase c, continuesIdentifier d) : continuesIdentifier c := by
  have ⟨d, rest, hu, _⟩ := exists_cons_uppercase c
  by_cases hc : uppercase c = [c]
  case pos => exact h c (by simp [hc])
  case neg => exact continuesIdentifier_of_starts (by simp [startsIdentifier, isAlphabetic_of_uppercase_ne hu hc])

-- Joined words begin with the capital form of their first character.
theorem exists_head_flatMap_capitalize_iff (ws : List (List Char)) :
    (∃ c ∈ (ws.flatMap capitalize).head?, startsIdentifier c) ↔ (∃ c ∈ ws.flatten.head?, startsIdentifier c) := by
  induction ws with
  | nil => rfl
  | cons w ws hi =>
    cases w with
    | nil => simpa [capitalize] using hi
    | cons c w =>
      obtain ⟨d, rest, hu, _⟩ := exists_cons_uppercase c
      simp [capitalize, hu, startsIdentifier_iff_of_uppercase hu]

theorem forall_mem_capitalize_iff (w : List Char) : (∀ c ∈ capitalize w, continuesIdentifier c) ↔
    (∀ c ∈ w, continuesIdentifier c) ∧ (∀ c ∈ w.head?, ∀ d ∈ uppercase c, continuesIdentifier d) := by
  cases w with
  | nil => simp [capitalize]
  | cons c w =>
    have hc := @continuesIdentifier_of_uppercase c
    simp only [capitalize, List.forall_mem_append, List.forall_mem_cons, List.head?_cons, Option.mem_some_iff,
      forall_eq']
    rw [and_right_comm]
    exact and_congr_left fun _ => (and_iff_right_of_imp hc).symm

theorem isIdentifierChars_joinFrom_iff (s : List Char) : (isIdentifierChars (joinFrom true s)) ↔
    (isIdentifierChars (undashed s)) ∧ (∀ c ∈ initials s, ∀ d ∈ uppercase c, continuesIdentifier d) := by
  rw [isIdentifierChars_iff, isIdentifierChars_iff, (joinFrom_words s).left, undashed_eq,
    exists_head_flatMap_capitalize_iff, and_assoc]
  refine and_congr_right fun _ => ?_
  simp only [List.forall_mem_flatMap, List.forall_mem_flatten, List.forall_mem_filterMap, forall_mem_capitalize_iff,
    initials, Option.mem_def, forall_and]

theorem expansions_marked : ∀ e ∈ caseExpansions,
    (e.1 ∈ markedPoints) ↔ ¬(e.2.map Char.ofNat).all continuesIdentifier := by
  decide +kernel

theorem markedPoints_expanded : ∀ n ∈ markedPoints, n ∈ caseExpansions.map (·.1) := by
  decide +kernel

theorem notMem_markedPoints (single : ∀ e ∈ caseExpansions, e.1 ≠ c.toNat) : c.toNat ∉ markedPoints := by
  intro h
  have ⟨e, he, hc⟩ := List.mem_map.mp (markedPoints_expanded _ h)
  exact single e he hc

theorem continuesIdentifier_of_isAlphabetic (h : isAlphabetic c) : continuesIdentifier c := by
  simp [continuesIdentifier, isAlphanumeric, h]

theorem mem_markedPoints_iff :
    (c.toNat ∈ markedPoints) ↔ (continuesIdentifier c) ∧ (∃ d ∈ uppercase c, ¬continuesIdentifier d) := by
  generalize hu : uppercase c = u
  cases hu ▸ capitalizes_uppercase c with
  | expansion listed point =>
    have hc : c.toNat ∈ smallPoints := point ▸ smallPoint_of_expansion listed
    rw [← point, expansions_marked _ listed, List.all_eq_true]
    simp [continuesIdentifier_of_isAlphabetic (isAlphabetic_of_smallPoint hc)]
  | run listed point single =>
    have hd := continuesIdentifier_of_isAlphabetic (isAlphabetic_of_capitalPoint (capitalPoint_of_run listed point))
    simp [notMem_markedPoints single, hd]
  | own single => simp [notMem_markedPoints single]

theorem mem_undashed_of_mem_initials (h : c ∈ initials s) : c ∈ undashed s := by
  obtain ⟨w, hw, hc⟩ := List.mem_filterMap.mp h
  rw [undashed_eq]
  exact List.mem_flatten.mpr ⟨w, hw, List.mem_of_mem_head? hc⟩

-- Where a stem is an identifier, its initials have nothing but marks in their capital forms that could spoil it.
theorem isIdentifier_canonical_iff : (isIdentifier (canonical (.ofList s))) ↔
    (isIdentifier (.ofList (undashed s))) ∧ (∀ c ∈ initials s, c.toNat ∉ markedPoints) := by
  rw [isIdentifier, canonical, String.toList_ofList, String.toList_ofList, isIdentifierChars_joinFrom_iff,
    isIdentifier, String.toList_ofList]
  refine and_congr_right fun hi => forall₂_congr fun c hc => ?_
  have hc := (isIdentifierChars_iff.mp hi).right c (mem_undashed_of_mem_initials hc)
  simp [mem_markedPoints_iff, hc]

end Name

namespace TypeName

open Name

-- What a path comes to as the name of a type.
structure Derived (p : Path) : Prop where
  -- A stem is acceptable as it is, or not at all, unless one of its words begins with a marked letter.
  named   : ∀ name, (ofPath? p = some name) ↔ ∃ stem, (p.stem? = some stem) ∧
              (name.text = canonical (.ofList stem)) ∧ (isIdentifier (.ofList (undashed stem))) ∧
              (∀ c ∈ initials stem, c.toNat ∉ markedPoints)
  marked  : ∀ c, (c.toNat ∈ markedPoints) ↔
              (continuesIdentifier c) ∧ (∃ d ∈ Text.uppercase c, ¬continuesIdentifier d)
  unnamed : (p.fileName? = none) → ofPath? p = none

theorem derived (p : Path) : Derived p where
  named name := by
    simp only [ofPath?]
    cases p.stem? with
    | none => simp
    | some stem =>
      have ht : (⟨canonical (.ofList stem)⟩ = name) ↔ (name.text = canonical (.ofList stem)) := by
        cases name
        simp [eq_comm]
      simp only [Option.some.injEq, exists_eq_left', ← isIdentifier_canonical_iff, Option.ite_none_right_eq_some, ht]
      exact and_comm
  marked _ := mem_markedPoints_iff
  unnamed h := by
    simp [ofPath?, Path.stem?, h]

-- A letter with a caron, for which there is no single capital letter, begins an acceptable stem only.
theorem refused_caron :
    let p : Path := ⟨"\u01F0.json"⟩
    let stem := ['\u01F0']
    (p.stem? = some stem) ∧ (ofPath? p = none) ∧
      ¬((∃ name, ofPath? p = some name) ↔ (isIdentifier (.ofList (undashed stem)))) := by
  intro p stem
  have hi : isIdentifier (.ofList (undashed stem)) := by decide +kernel
  have hn : ofPath? p = none := by decide +kernel
  refine ⟨by decide +kernel, hn, fun h => ?_⟩
  simpa [hn] using h.mpr hi

end TypeName

end ModelForge
