import Mathlib.Data.List.Induction
import ModelForge.Text.Lines

namespace ModelForge.Text

variable {l s rest : List Char} {ls : List (List Char)}

theorem breakAtFeeds_eq (s : List Char) : (breakAtFeeds s).fst ++ [(breakAtFeeds s).snd] = s.splitOn '\n' := by
  induction s with
  | nil => rfl
  | cons c s hi =>
    rw [List.splitOn_cons_eq_if_modifyHead, ← hi]
    by_cases hc : c = '\n'
    case pos => simp [breakAtFeeds, hc]
    case neg => cases hd : (breakAtFeeds s).fst <;> simp [breakAtFeeds, hc, hd]

theorem lines_append_feed : lines (s ++ '\n' :: rest) = (s.splitOn '\n').map dropReturn ++ lines rest := by
  have hb := breakAtFeeds_eq (s ++ '\n' :: rest)
  rw [List.splitOn_append_cons_self, ← breakAtFeeds_eq rest, ← List.append_assoc] at hb
  have ⟨hd, hl⟩ := List.append_inj' hb rfl
  simp [lines, hd, List.singleton_inj.mp hl]

-- Where every line is ended, each stands for itself, or for more if there are line feeds in it.
theorem lines_ended (ls : List (List Char)) :
    lines (ls.flatMap (· ++ ['\n'])) = ls.flatMap fun l => (l.splitOn '\n').map dropReturn := by
  induction ls with
  | nil => rfl
  | cons l ls hi => simp [lines_append_feed, hi]

-- What follows the last line feed in a line is a line of its own.
theorem mem_lines_ended (hm : s ++ '\n' :: l ∈ ls) (hl : '\n' ∉ l) :
    dropReturn l ∈ lines (ls.flatMap (· ++ ['\n'])) := by
  rw [lines_ended]
  refine List.mem_flatMap.mpr ⟨_, hm, ?_⟩
  rw [List.splitOn_append_cons_self, List.splitOn_eq_singleton hl]
  simp

theorem length_splitOn_feed (l : List Char) : (l.splitOn '\n').length = l.count '\n' + 1 := by
  induction l with
  | nil => rfl
  | cons c l hi =>
    rw [List.splitOn_cons_eq_if_modifyHead]
    by_cases hc : c = '\n'
    case pos => simp [hc, hi]
    case neg => simp [hc, hi]

-- One line feed inside is enough for there to be too many lines.
theorem length_lines_ended_iff :
    ((lines (ls.flatMap (· ++ ['\n']))).length = ls.length) ↔ (∀ l ∈ ls, '\n' ∉ l) := by
  have hl : (lines (ls.flatMap (· ++ ['\n']))).length = (ls.map (·.count '\n')).sum + ls.length := by
    rw [lines_ended]
    induction ls with
    | nil => rfl
    | cons l ls hi =>
      simp only [List.flatMap_cons, List.length_append, List.length_map, length_splitOn_feed, hi, List.map_cons,
        List.sum_cons, List.length_cons]
      omega
  rw [hl, Nat.add_eq_right, List.sum_eq_zero_iff_forall_eq_nat]
  simp [List.count_eq_zero]

theorem lines_ended_of_feedless (h : ∀ l ∈ ls, '\n' ∉ l) :
    lines (ls.flatMap (· ++ ['\n'])) = ls.map dropReturn := by
  rw [lines_ended]
  induction ls with
  | nil => rfl
  | cons l ls hi =>
    have hl := h l List.mem_cons_self
    have hi := hi fun l hm => h l (List.mem_cons_of_mem _ hm)
    simp [List.splitOn_eq_singleton hl, hi]

theorem dropReturn_of_ne (h : l.getLast? ≠ some '\r') : dropReturn l = l := if_neg h

theorem dropReturn_append {c : Char} (h : l.getLast? = some c) (hc : c ≠ '\r') :
    dropReturn (s ++ l) = s ++ l := by
  refine dropReturn_of_ne ?_
  rw [List.getLast?_append, h]
  simpa using hc

-- What a line starts with stays.
theorem prefix_dropReturn (h : '\r' ∉ s) (hp : s <+: l) : s <+: dropReturn l := by
  obtain ⟨t, rfl⟩ := hp
  by_cases hl : (s ++ t).getLast? = some '\r'
  case neg => rw [dropReturn_of_ne hl]; exact s.prefix_append t
  case pos =>
    have ht : t ≠ [] := by
      rintro rfl
      exact h (List.mem_of_getLast? (by simpa using hl))
    rw [dropReturn, if_pos hl, List.dropLast_append_of_ne_nil ht]
    exact s.prefix_append _

-- The text without the carriage return in front of a line feed.
def plainFeeds : List Char → List Char
  | '\r' :: '\n' :: s => '\n' :: plainFeeds s
  | c :: s => c :: plainFeeds s
  | [] => []

-- The text without one line feed at its end.
def dropLastFeed (s : List Char) : List Char := if s.getLast? = some '\n' then s.dropLast else s

-- Lines with a line feed behind each.
def ended (ls : List (List Char)) : List Char := ls.flatMap (· ++ ['\n'])

theorem intercalate_append_singleton (ls : List (List Char)) (l : List Char) :
    List.intercalate ['\n'] (ls ++ [l]) = ended ls ++ l := by
  induction ls with
  | nil => simp [ended]
  | cons m ls hi => simp [ended, List.intercalate_cons_of_ne_nil, hi]

theorem ended_breakAtFeeds (s : List Char) : ended (breakAtFeeds s).fst ++ (breakAtFeeds s).snd = s := by
  rw [← intercalate_append_singleton, breakAtFeeds_eq, List.intercalate_splitOn]

theorem feed_notMem_breakAtFeeds (s : List Char) :
    (∀ l ∈ (breakAtFeeds s).fst, '\n' ∉ l) ∧ ('\n' ∉ (breakAtFeeds s).snd) := by
  induction s with
  | nil => simp [breakAtFeeds]
  | cons c s hi =>
    by_cases hc : c = '\n'
    case pos => simpa [breakAtFeeds, hc] using hi
    case neg => cases hd : (breakAtFeeds s).fst <;> simp_all [breakAtFeeds, Ne.symm hc]

theorem exists_feed_of_breakAtFeeds (h : (breakAtFeeds s).fst = [] :: ls) : ∃ t, s = '\n' :: t := by
  have he := ended_breakAtFeeds s
  rw [h] at he
  exact ⟨_, he.symm⟩

theorem dropReturn_cons {c : Char} (h : c = '\r' → l ≠ []) : dropReturn (c :: l) = c :: dropReturn l := by
  cases l with
  | nil => simp_all [dropReturn]
  | cons d l =>
    rw [dropReturn, dropReturn, List.getLast?_cons_cons, List.dropLast_cons_cons]
    split <;> rfl

-- A carriage return goes exactly where the line that it ends in is still to be put in front of a line feed.
theorem plainFeeds_eq (s : List Char) :
    plainFeeds s = ended ((breakAtFeeds s).fst.map dropReturn) ++ (breakAtFeeds s).snd := by
  fun_induction plainFeeds s with
  | case1 s hi => simp [breakAtFeeds, ended, dropReturn, hi]
  | case2 c s hn hi =>
    by_cases hc : c = '\n'
    case pos => simp [breakAtFeeds, hc, hi, ended, dropReturn]
    case neg =>
      cases hd : (breakAtFeeds s).fst with
      | nil => simp [breakAtFeeds, hc, hd, hi, ended]
      | cons l ls =>
        have hl : dropReturn (c :: l) = c :: dropReturn l := by
          refine dropReturn_cons fun hr hl => ?_
          have ⟨t, ht⟩ := exists_feed_of_breakAtFeeds (hl ▸ hd)
          exact hn t hr ht
        simp [breakAtFeeds, hc, hd, hi, ended, hl]
  | case3 => rfl

theorem lines_eq (s : List Char) : lines s =
    (breakAtFeeds s).fst.map dropReturn ++ (if (breakAtFeeds s).snd = [] then [] else [(breakAtFeeds s).snd]) := rfl

theorem feed_notMem_dropReturn (h : '\n' ∉ l) : '\n' ∉ dropReturn l := by
  rw [dropReturn]
  split
  · exact fun hm => h (List.dropLast_subset _ hm)
  · exact h

theorem feed_notMem_of_mem_lines (h : l ∈ lines s) : '\n' ∉ l := by
  have ⟨hd, hl⟩ := feed_notMem_breakAtFeeds s
  rw [lines_eq, List.mem_append, List.mem_map] at h
  cases h with
  | inl h =>
    obtain ⟨l, hm, rfl⟩ := h
    exact feed_notMem_dropReturn (hd l hm)
  | inr h =>
    split at h
    · cases h
    · exact List.mem_singleton.mp h ▸ hl

theorem unlines_eq (ls : List (List Char)) : unlines ls = List.intercalate ['\n'] ls := by
  fun_induction unlines <;> simp_all [List.intercalate]

theorem ended_append_singleton (ls : List (List Char)) (l : List Char) :
    ended (ls ++ [l]) = ended ls ++ l ++ ['\n'] := by
  simp [ended]

theorem dropLastFeed_append_feed (s : List Char) : dropLastFeed (s ++ ['\n']) = s := by
  simp [dropLastFeed]

theorem getLast?_append_ne_feed (hl : l ≠ []) (hn : '\n' ∉ l) : (s ++ l).getLast? ≠ some '\n' := by
  rw [List.getLast?_append, List.getLast?_eq_some_getLast hl]
  exact fun h => hn (Option.some.inj h ▸ l.getLast_mem hl)

theorem dropLastFeed_append (hl : l ≠ []) (hn : '\n' ∉ l) : dropLastFeed (s ++ l) = s ++ l :=
  if_neg (getLast?_append_ne_feed hl hn)

-- Joining the lines of a text gives the text back, but for its line ends.
theorem intercalate_lines (s : List Char) :
    List.intercalate ['\n'] (lines s) = dropLastFeed (plainFeeds s) := by
  rw [lines_eq, plainFeeds_eq]
  split
  case isTrue h =>
    rw [h, List.append_nil, List.append_nil]
    cases (breakAtFeeds s).fst.map dropReturn using List.reverseRecOn with
    | nil => rfl
    | append_singleton ls l => rw [intercalate_append_singleton, ended_append_singleton, dropLastFeed_append_feed]
  case isFalse h =>
    rw [intercalate_append_singleton, dropLastFeed_append h (feed_notMem_breakAtFeeds s).right]

theorem length_breakAtFeeds (s : List Char) : (breakAtFeeds s).fst.length = s.count '\n' := by
  have h := length_splitOn_feed s
  rw [← breakAtFeeds_eq, List.length_append, List.length_singleton] at h
  exact Nat.add_right_cancel h

-- Nothing is left behind the last line feed of a text that it ends.
theorem breakAtFeeds_snd_eq_nil_iff : ((breakAtFeeds s).snd = []) ↔ (s = []) ∨ (s.getLast? = some '\n') := by
  have hs := ended_breakAtFeeds s
  have hn := (feed_notMem_breakAtFeeds s).right
  constructor
  · intro hl
    rw [hl, List.append_nil] at hs
    cases hd : (breakAtFeeds s).fst using List.reverseRecOn with
    | nil => exact .inl (by rw [← hs, hd]; rfl)
    | append_singleton ls l => exact .inr (by rw [← hs, hd, ended_append_singleton]; simp)
  · intro h
    by_contra hl
    rw [← hs, List.append_eq_nil_iff] at h
    exact h.elim (fun h => hl h.right) (getLast?_append_ne_feed hl hn)

theorem length_lines (s : List Char) : (lines s).length =
    s.count '\n' + if (s ≠ []) ∧ (s.getLast? ≠ some '\n') then 1 else 0 := by
  have hl : ((breakAtFeeds s).snd ≠ []) ↔ (s ≠ []) ∧ (s.getLast? ≠ some '\n') :=
    breakAtFeeds_snd_eq_nil_iff.not.trans not_or
  rw [lines_eq, List.length_append, List.length_map, length_breakAtFeeds]
  simp only [← hl]
  by_cases h : (breakAtFeeds s).snd = [] <;> simp [h]

end ModelForge.Text
