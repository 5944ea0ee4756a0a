import ModelForge.Text.Uppercase

namespace ModelForge.Text

variable {n : Nat} {ns : List Nat} {c : Char}

namespace CaseRun

variable {r : CaseRun}

-- The code points of a run.
def points (r : CaseRun) : List Nat :=
  (List.range ((r.last - r.first) / r.step + 1)).map (r.first + r.step * ·)

theorem mem_points (h : r.contains n) : n ∈ r.points := by
  simp only [contains, Bool.and_eq_true, decide_eq_true_eq] at h
  obtain ⟨⟨hf, hl⟩, hs⟩ := h
  refine List.mem_map.mpr ⟨(n - r.first) / r.step, List.mem_range.mpr ?_, ?_⟩
  · have := Nat.div_le_div_right (c := r.step) (Nat.sub_le_sub_right hl r.first)
    omega
  · have := Nat.div_add_mod (n - r.first) r.step
    omega

end CaseRun

-- The code points that have a capital form.
def smallPoints : List Nat := caseExpansions.map (·.1) ++ caseRuns.flatMap (·.points)

-- The code points that a capital form begins with.
def capitalPoints : List Nat :=
  caseExpansions.filterMap (·.2.head?) ++ caseRuns.flatMap fun r => r.points.map r.capital

-- A set of numbers as the bits of one number.
def bits : List Nat → Nat
  | [] => 0
  | n :: ns => Nat.pow 2 n ||| bits ns

theorem testBit_bits : (bits ns).testBit n ↔ n ∈ ns := by
  induction ns with
  | nil => simp [bits]
  | cons m ns hi =>
    have hm : (Nat.pow 2 m).testBit n = decide (m = n) := Nat.testBit_two_pow
    rw [bits, Nat.testBit_or, Bool.or_eq_true, hi, hm, decide_eq_true_eq, List.mem_cons, eq_comm]

-- Both sets are too large to be compared pair by pair, so all their bits are compared at once.
theorem bits_disjoint : bits smallPoints &&& bits capitalPoints = 0 := by
  decide +kernel

theorem notMem_smallPoints (h : n ∈ capitalPoints) : n ∉ smallPoints := by
  intro hs
  have hb : (bits smallPoints &&& bits capitalPoints).testBit n := by
    rw [Nat.testBit_and, testBit_bits.mpr hs, testBit_bits.mpr h, Bool.and_self]
  simp [bits_disjoint] at hb

theorem isValidChar_of_mem_capitalPoints : ∀ n ∈ capitalPoints, n.isValidChar := by
  decide +kernel

theorem expansions_ne_nil : ∀ e ∈ caseExpansions, e.2 ≠ [] := by
  decide

-- How a character comes to its capital form.
inductive Capitalizes (c : Char) : List Char → Prop
  | expansion {e : Nat × List Nat} (listed : e ∈ caseExpansions) (point : e.1 = c.toNat) :
    Capitalizes c (e.2.map Char.ofNat)
  | run {r : CaseRun} (listed : r ∈ caseRuns) (point : c.toNat ∈ r.points)
    (single : ∀ e ∈ caseExpansions, e.1 ≠ c.toNat) : Capitalizes c [Char.ofNat (r.capital c.toNat)]
  | own (single : ∀ e ∈ caseExpansions, e.1 ≠ c.toNat) : Capitalizes c [c]

theorem capitalizes_uppercase (c : Char) : Capitalizes c (uppercase c) := by
  rw [uppercase]
  split
  case h_1 k ns he => exact .expansion (List.mem_of_find?_eq_some he) (by simpa using List.find?_some he)
  case h_2 he =>
    have single : ∀ e ∈ caseExpansions, e.1 ≠ c.toNat := by simpa using he
    split
    case h_1 r hr =>
      exact .run (List.mem_of_find?_eq_some hr) (CaseRun.mem_points (List.find?_some hr :)) single
    case h_2 => exact .own single

theorem smallPoint_of_expansion {e : Nat × List Nat} (h : e ∈ caseExpansions) : e.1 ∈ smallPoints :=
  List.mem_append_left _ (List.mem_map_of_mem h)

theorem smallPoint_of_run {r : CaseRun} (h : r ∈ caseRuns) (hn : n ∈ r.points) : n ∈ smallPoints :=
  List.mem_append_right _ (List.mem_flatMap.mpr ⟨r, h, hn⟩)

theorem capitalPoint_of_expansion {e : Nat × List Nat} (h : e ∈ caseExpansions) :
    ∃ n ∈ capitalPoints, ∃ rest, e.2 = n :: rest := by
  obtain ⟨n, rest, he⟩ := List.exists_cons_of_ne_nil (expansions_ne_nil _ h)
  exact ⟨n, List.mem_append_left _ (List.mem_filterMap.mpr ⟨e, h, by rw [he]; rfl⟩), rest, he⟩

theorem capitalPoint_of_run {r : CaseRun} (h : r ∈ caseRuns) (hn : n ∈ r.points) : r.capital n ∈ capitalPoints :=
  List.mem_append_right _ (List.mem_flatMap.mpr ⟨r, h, List.mem_map_of_mem hn⟩)

-- A character is its own capital form, or it has one.
theorem uppercase_cases (c : Char) : (uppercase c = [c]) ∨ ((c.toNat ∈ smallPoints) ∧
    ∃ n ∈ capitalPoints, ∃ rest, uppercase c = Char.ofNat n :: rest) := by
  generalize hu : uppercase c = u
  cases hu ▸ capitalizes_uppercase c with
  | expansion listed point =>
    have ⟨n, hn, rest, he⟩ := capitalPoint_of_expansion listed
    exact .inr ⟨point ▸ smallPoint_of_expansion listed, n, hn, rest.map Char.ofNat, by rw [he]; rfl⟩
  | run listed point => exact .inr ⟨smallPoint_of_run listed point, _, capitalPoint_of_run listed point, [], rfl⟩
  | own => exact .inl rfl

theorem uppercase_of_notMem (h : c.toNat ∉ smallPoints) : uppercase c = [c] :=
  (uppercase_cases c).resolve_right fun hs => h hs.left

theorem toNat_of_capitalPoint (h : n ∈ capitalPoints) : (Char.ofNat n).toNat = n := by
  rw [Char.ofNat, dif_pos (isValidChar_of_mem_capitalPoints n h)]
  rfl

-- What a capital form begins with is its own capital form, also where the form has several characters.
theorem exists_cons_uppercase (c : Char) : ∃ d rest, (uppercase c = d :: rest) ∧ (uppercase d = [d]) := by
  rcases uppercase_cases c with h | ⟨_, n, hn, rest, h⟩
  case inl => exact ⟨c, [], h, h⟩
  case inr =>
    refine ⟨_, rest, h, uppercase_of_notMem ?_⟩
    rw [toNat_of_capitalPoint hn]
    exact notMem_smallPoints hn

end ModelForge.Text
