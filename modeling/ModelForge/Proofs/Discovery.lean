import Mathlib.Data.List.Nodup
import Mathlib.Data.List.Pairwise
import ModelForge.Discovery
import ModelForge.Proofs.FileSystem.Resolve

namespace ModelForge

namespace FileSystem

-- Every location is there once, and every name in it can be one.
structure WellFormed (fs : FileSystem) : Prop where
  distinct : (Keyed.keys fs.entries).Nodup
  names    : ∀ l ∈ Keyed.keys fs.entries, ∀ n ∈ l, Path.IsName n.toList

variable {fs : FileSystem} {l : Location} {n : String} {p : Path}

theorem linkless_of_entries (h : ∀ x ∈ fs.entries, ∀ target, x.snd ≠ .link target) : fs.Linkless := by
  intro l target ha
  rw [at?] at ha
  split at ha
  case isTrue => simp at ha
  case isFalse =>
    generalize fs.entries = entries at h ha
    induction entries with
    | nil => simp [Keyed.find?] at ha
    | cons x rest hi =>
      simp only [Keyed.find?] at ha
      split at ha
      case isTrue => exact h x (by simp) target (Option.some.inj ha)
      case isFalse => exact hi (fun x hx => h x (by simp [hx])) ha

-- A child's name is the last one of its location.
theorem childNames_eq : fs.childNames l = (Keyed.keys fs.entries).filterMap fun k =>
    if k.length = l.length + 1 && k.take l.length = l then k.getLast? else none := by
  rw [childNames, Keyed.keys, List.filterMap_map]
  rfl

theorem eq_append_of_child {k : Location}
    (h : n ∈ if k.length = l.length + 1 && k.take l.length = l then k.getLast? else none) : k = l ++ [n] := by
  split at h <;> simp at h
  case isTrue hk =>
    obtain ⟨front, rfl⟩ := List.getLast?_eq_some_iff.mp h
    simp only [List.length_append, List.length_singleton, Nat.add_right_cancel_iff, Bool.and_eq_true,
      decide_eq_true_eq] at hk
    rw [← hk.left, List.take_left] at hk
    rw [hk.right]

namespace WellFormed

variable (wf : fs.WellFormed)
include wf

theorem nodup_childNames : (fs.childNames l).Nodup := by
  rw [childNames_eq]
  refine List.Nodup.filterMap (fun k k' n h h' => ?_) wf.distinct
  rw [eq_append_of_child h, eq_append_of_child h']

theorem isName_of_child (h : n ∈ fs.childNames l) : Path.IsName n.toList := by
  rw [childNames_eq, List.mem_filterMap] at h
  obtain ⟨k, hk, h⟩ := h
  exact wf.names k hk n (by simp [eq_append_of_child h])

end WellFormed

end FileSystem

theorem Path.join_inj {d : Path} {n n' : String} (h : IsName n.toList) (h' : IsName n'.toList)
    (hj : d.join ⟨n⟩ = d.join ⟨n'⟩) : n = n' := by
  have ht := congrArg (·.text.toList) hj
  simp only [toList_join h, toList_join h'] at ht
  exact String.toList_inj.mp (List.append_cancel_left ht)

namespace Discovery

variable {fs : FileSystem} {l : Location} {input i : Path} {is : List Path}

section Names

variable {names names' : List String}

theorem pairwise_mergeSort (names : List String) :
    (names.mergeSort fun a b => decide (a ≤ b)).Pairwise (· ≤ ·) := by
  have h : (names.mergeSort fun a b => decide (a ≤ b)).Pairwise fun a b => decide (a ≤ b) :=
    List.pairwise_mergeSort (by simpa using fun _ _ _ => String.le_trans) (by simpa using String.le_total) names
  exact h.imp of_decide_eq_true

theorem eq_of_perm (h : names.Perm names') (hs : names.Pairwise (· ≤ ·)) (hs' : names'.Pairwise (· ≤ ·)) :
    names = names' :=
  h.eq_of_pairwise (fun _ _ _ _ => String.le_antisymm) hs hs'

theorem mergeSort_congr (h : names.Perm names') :
    (names.mergeSort fun a b => decide (a ≤ b)) = names'.mergeSort fun a b => decide (a ≤ b) :=
  eq_of_perm ((List.mergeSort_perm ..).trans (h.trans (List.mergeSort_perm ..).symm)) (pairwise_mergeSort _)
    (pairwise_mergeSort _)

theorem filter_mergeSort (keep : String → Bool) : (names.mergeSort fun a b => decide (a ≤ b)).filter keep =
    (names.filter keep).mergeSort fun a b => decide (a ≤ b) :=
  eq_of_perm (((List.mergeSort_perm ..).filter keep).trans (List.mergeSort_perm ..).symm)
    ((pairwise_mergeSort names).filter _) (pairwise_mergeSort _)

end Names

theorem inputs_of_directory (hr : fs.resolve input = .ok (.entry l .directory)) : inputs fs input =
    if fs.allows .read l then .ok (modelsIn fs input (fs.childNames l))
    else .error (.notListed input .permissionDenied) := by
  have hd : fs.isDirectory input := FileSystem.isDirectory_iff.mpr ⟨l, hr⟩
  have he : fs.exists input := FileSystem.exists_of_isDirectory hd
  simp only [inputs, he, hd, FileSystem.list, hr]
  by_cases ha : fs.allows .read l <;> simp [ha]

-- What discovery comes to: it fails for a path that leads nowhere, and for a directory that cannot be listed.
inductive Discovered (fs : FileSystem) (input : Path) : Except BatchError (List Path) → Prop
  | missing (missing : ¬fs.exists input) : Discovered fs input (.error (.pathNotFound input))
  | unlisted {cause : FileError} (directory : fs.isDirectory input) (unlisted : fs.list input = .error cause) :
    Discovered fs input (.error (.notListed input cause))
  | listed {is : List Path} (there : fs.exists input)
    (listed : fs.isDirectory input → ∃ names, fs.list input = .ok names) : Discovered fs input (.ok is)

theorem discovered {r : Except BatchError (List Path)} (h : inputs fs input = r) : Discovered fs input r := by
  subst h
  simp only [inputs]
  by_cases he : fs.exists input <;> simp only [he]
  case neg => exact .missing he
  case pos =>
    by_cases hd : fs.isDirectory input <;> simp only [hd]
    case neg => exact .listed he (absurd · hd)
    case pos =>
      cases hl : fs.list input with
      | ok names => exact .listed he fun _ => ⟨names, hl⟩
      | error cause => exact .unlisted hd hl

-- The inputs are one file, or the models right inside a directory.
theorem inputs_cases (h : inputs fs input = .ok is) :
    ((is = [input]) ∧ (fs.exists input) ∧ (fs.isDirectory input = false)) ∨
      (∃ l, (is = modelsIn fs input (fs.childNames l))) := by
  simp only [inputs] at h
  split at h <;> try contradiction
  case isFalse he =>
    split at h
    case isTrue hd => cases h; exact .inl ⟨rfl, by simpa using he, by simpa using hd⟩
    case isFalse =>
      split at h <;> cases h
      case h_1 names hn =>
        rw [FileSystem.list] at hn
        split at hn <;> try contradiction
        case h_1 l _ =>
          split at hn <;> cases hn
          exact .inr ⟨l, rfl⟩

theorem isModel_of_mem_modelsIn {names : List String} (h : i ∈ modelsIn fs input names) : isModel fs i :=
  (List.mem_filter.mp h).right

theorem mem_modelsIn {names : List String} (h : i ∈ modelsIn fs input names) : ∃ n ∈ names, i = input.join ⟨n⟩ := by
  simp only [modelsIn, List.mem_filter, List.mem_map, List.mem_mergeSort] at h
  obtain ⟨⟨n, hn, rfl⟩, _⟩ := h
  exact ⟨n, hn, rfl⟩

theorem nodup_modelsIn {names : List String} (hd : names.Nodup) (hn : ∀ n ∈ names, Path.IsName n.toList) :
    (modelsIn fs input names).Nodup := by
  refine List.Nodup.filter _ (List.Nodup.map_on ?_ ?_)
  · intro n h n' h' hj
    exact Path.join_inj (hn n (by simpa using h)) (hn n' (by simpa using h')) hj
  · exact (List.mergeSort_perm _ _).nodup_iff.mpr hd

theorem nodup_inputs (wf : fs.WellFormed) (h : inputs fs input = .ok is) : is.Nodup := by
  rcases inputs_cases h with ⟨rfl, _⟩ | ⟨l, rfl⟩
  case inl => simp
  case inr => exact nodup_modelsIn wf.nodup_childNames fun _ => wf.isName_of_child

-- An input is itself the only input of a batch over it.
theorem inputs_of_mem (h : inputs fs input = .ok is) (hi : i ∈ is) : inputs fs i = .ok [i] := by
  have hf : (fs.exists i) ∧ (fs.isDirectory i = false) := by
    rcases inputs_cases h with ⟨rfl, hx⟩ | ⟨l, rfl⟩
    case inl => exact (List.mem_singleton.mp hi) ▸ hx
    case inr =>
      have hm := isModel_of_mem_modelsIn hi
      simp only [isModel, Bool.and_eq_true] at hm
      obtain ⟨l, content, x, hr⟩ := FileSystem.isFile_iff.mp hm.left
      simp [FileSystem.exists, FileSystem.isDirectory, FileSystem.entry, hr, Except.isOk, Except.toBool]
  simp [inputs, hf]

end Discovery

end ModelForge
