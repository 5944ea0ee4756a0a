import ModelForge.Keyed

namespace ModelForge.Keyed

section Put

variable {κ : Type u} {α : Type v} [DecidableEq κ] [LT κ] [DecidableLT κ] {k k' : κ} {a b : α}
  {entries more : List (κ × α)}

theorem mem_put {e : κ × α} (h : e ∈ put k a entries) : (e = (k, a)) ∨ (e ∈ entries) := by
  induction entries with
  | nil => exact .inl (List.mem_singleton.mp h)
  | cons _ _ hi =>
    rw [put] at h
    split at h
    case isTrue => exact (List.mem_cons.mp h).imp_right <| List.mem_cons_of_mem _
    case isFalse =>
      split at h
      case isTrue => exact List.mem_cons.mp h
      case isFalse =>
        rcases List.mem_cons.mp h with h | h
        case inl => exact .inr <| List.mem_cons.mpr <| .inl h
        case inr => exact (hi h).imp_right <| List.mem_cons_of_mem _

-- Of two values put under one key, only the later one is left.
theorem put_put_self : put k a (put k b entries) = put k a entries := by
  induction entries with
  | nil => simp [put]
  | cons e rest hi =>
    by_cases he : k = e.1
    case pos => simp [put, ← he]
    case neg => by_cases hl : k < e.1 <;> simp [put, he, hl, hi]

-- What does not look at a key does not see a put under it.
theorem filterMap_put {β : Type w} {f : κ × α → Option β} (h : ∀ b, f (k, b) = none) :
    (put k a entries).filterMap f = entries.filterMap f := by
  induction entries with
  | nil => simp [put, h]
  | cons e rest hi =>
    rw [put]
    split
    case isTrue hk =>
      obtain ⟨k', b⟩ := e
      obtain rfl : k = k' := hk
      simp [h]
    case isFalse =>
      split
      case isTrue => rw [List.filterMap_cons_none (h a)]
      case isFalse => simp only [List.filterMap_cons, hi]

-- Behind all smaller keys, a new key comes last.
theorem put_eq_append [Std.Asymm fun a b : κ => a < b] (h : ∀ e ∈ entries, e.1 < k) :
    put k a entries = entries ++ [(k, a)] := by
  induction entries with
  | nil => rfl
  | cons e rest hi =>
    have hl : e.1 < k := h e List.mem_cons_self
    have hn : ¬k < e.1 := Std.Asymm.asymm _ _ hl
    have hk : k ≠ e.1 := fun hk => hn (hk ▸ hl)
    simp [put, hk, hn, hi fun e he => h e (List.mem_cons_of_mem _ he)]

theorem foldl_put_of_sorted [Std.Asymm fun a b : κ => a < b] (entries : List (κ × α)) (h : Sorted (entries ++ more)) :
    more.foldl (fun entries e => put e.1 e.2 entries) entries = entries ++ more := by
  induction more generalizing entries with
  | nil => simp
  | cons e more hi =>
    have hl : ∀ e' ∈ entries, e'.1 < e.1 := fun e' he' => (List.pairwise_append.mp h).right.right e' he' e (by simp)
    rw [List.foldl_cons, put_eq_append hl, hi _ (by simpa [Sorted] using h)]
    simp

theorem ofList_of_sorted [Std.Asymm fun a b : κ => a < b] (h : Sorted entries) : ofList entries = entries :=
  foldl_put_of_sorted [] h

omit [LT κ] [DecidableLT κ] in
theorem mem_of_find? (h : find? k entries = some a) : (k, a) ∈ entries := by
  induction entries with
  | nil => cases h
  | cons e rest hi =>
    obtain ⟨k', b⟩ := e
    rw [find?] at h
    split at h
    case isTrue => simp_all
    case isFalse => exact .tail _ <| hi h

omit [LT κ] [DecidableLT κ] in
theorem find?_isSome_iff : (find? k entries).isSome ↔ k ∈ keys entries := by
  induction entries with
  | nil => simp [find?, keys]
  | cons e rest hi =>
    by_cases hk : k = e.1
    case pos => simp [find?, keys, hk]
    case neg => simpa [find?, keys, hk] using hi

-- Of entries with different keys, all are found after they have been put one after the other.
theorem find?_ofList (h : (keys entries).Nodup) : find? k (ofList entries) = find? k entries := by
  suffices hf : ∀ acc, find? k (entries.foldl (fun acc e => put e.1 e.2 acc) acc) =
      (find? k entries).or (find? k acc) by simpa [ofList, find?] using hf []
  induction entries with
  | nil => simp [find?]
  | cons e rest hi =>
    intro acc
    obtain ⟨he, hr⟩ := List.nodup_cons.mp h
    rw [List.foldl_cons, hi hr]
    by_cases hk : k = e.1
    case pos =>
      subst hk
      have hn : find? e.1 rest = none := by simpa using mt find?_isSome_iff.mp he
      simp [find?, hn]
    case neg => simp [find?, hk]

omit [DecidableLT κ] in
theorem find?_of_mem [Std.Irrefl fun a b : κ => a < b] (hs : Sorted entries) (h : (k, a) ∈ entries) :
    find? k entries = some a := by
  induction entries with
  | nil => cases h
  | cons e rest hi =>
    obtain ⟨k', b⟩ := e
    obtain ⟨he, hr⟩ := List.pairwise_cons.mp hs
    rcases List.mem_cons.mp h with h | h
    case inl =>
      obtain ⟨rfl, rfl⟩ := Prod.mk.injEq .. ▸ h
      simp [find?]
    case inr =>
      have hk : k ≠ k' := fun hk => Std.Irrefl.irrefl k' (hk ▸ he _ h)
      simp [find?, hk, hi hr h]

section Ordered

variable [Trans (fun a b : κ => a < b) (fun a b : κ => a < b) (fun a b : κ => a < b)]

omit [DecidableEq κ] [DecidableLT κ] in
theorem lt_trans {i j k : κ} (h₁ : i < j) (h₂ : j < k) : i < k :=
  Trans.trans (r := fun a b : κ => a < b) (s := fun a b : κ => a < b) h₁ h₂

theorem sorted_put [Std.Trichotomous fun a b : κ => a < b] (h : Sorted entries) : Sorted (put k a entries) := by
  induction entries with
  | nil => simp [put, Sorted]
  | cons e rest hi =>
    obtain ⟨he, hr⟩ := List.pairwise_cons.mp h
    rw [put]
    split
    case isTrue hk => exact List.pairwise_cons.mpr ⟨fun e' he' => hk ▸ he e' he', hr⟩
    case isFalse hk =>
      split
      case isTrue hl =>
        refine List.pairwise_cons.mpr ⟨fun e' he' => ?_, h⟩
        rcases List.mem_cons.mp he' with rfl | he'
        case inl => exact hl
        case inr => exact lt_trans hl (he e' he')
      case isFalse hl =>
        refine List.pairwise_cons.mpr ⟨fun e' he' => ?_, hi hr⟩
        have hlt : e.1 < k := Decidable.byContradiction fun hn => hk (Std.Trichotomous.trichotomous _ _ hl hn)
        rcases mem_put he' with rfl | he'
        case inl => exact hlt
        case inr => exact he e' he'

-- What a put leaves as it is, it leaves so after one of another key.
theorem put_put_of_put_eq [Std.Asymm fun a b : κ => a < b] (h : put k a entries = entries) (hn : k ≠ k') :
    put k a (put k' b entries) = put k' b entries := by
  induction entries with
  | nil => simp [put] at h
  | cons e rest hi =>
    by_cases hk : k = e.1
    case pos =>
      have he : e = (k, a) := by simpa [put, hk, eq_comm] using h
      have hs : put k a (e :: rest) = e :: rest := h
      by_cases hl : k' < e.1
      case pos =>
        have hl' : ¬k < k' := Std.Asymm.asymm _ _ (hk ▸ hl)
        simp [put, he, hn, hn.symm, hl', hk ▸ hl]
      case neg => simp [put, he, hn.symm, hk ▸ hl]
    case neg =>
      by_cases hl : k < e.1
      case pos =>
        have hlen := congrArg List.length h
        simp [put, hk, hl] at hlen
      case neg =>
        have hr : put k a rest = rest := by simpa [put, hk, hl] using h
        by_cases hk' : k' = e.1
        case pos => simp [put, hk', hk, hl, hr]
        case neg =>
          by_cases hl' : k' < e.1
          case neg => simp [put, hk', hl', hk, hl, hi hr]
          case pos =>
            have hl'' : ¬k < k' := fun hlt => hl (lt_trans hlt hl')
            simp [put, hk', hl', hn, hl'', hk, hl, hr]

end Ordered

end Put

end ModelForge.Keyed
