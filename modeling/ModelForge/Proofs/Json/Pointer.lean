import ModelForge.Json.Pointer
import ModelForge.Proofs.Path

namespace ModelForge

namespace Pointer

variable {p q r : Pointer} {t : String} {s rest : List Char} {c : Char}

section Escape

theorem unescape_cons (h : c ≠ '~') : unescape (c :: rest) = c :: unescape rest := by
  rw [unescape.eq_def]
  split <;> simp_all

theorem unescape_escape (s : List Char) : unescape (escape s) = s := by
  induction s with
  | nil => rfl
  | cons c s hi =>
    rw [escape, List.flatMap_cons, ← escape]
    by_cases ht : c = '~'
    case pos => simp [escapeChar, ht, unescape, hi]
    case neg =>
      by_cases hs : c = '/'
      case pos => simp [escapeChar, hs, unescape, hi]
      case neg => simp [escapeChar, ht, hs, unescape_cons ht, hi]

theorem slash_notMem_escape (s : List Char) : '/' ∉ escape s := by
  simp only [escape, List.mem_flatMap, not_exists, not_and]
  intro c _
  rw [escapeChar]
  split
  · simp
  · split <;> simp_all [eq_comm]

end Escape

section Read

theorem parts_eq (s : List Char) : parts s = Path.splitSlashes s := by
  induction s with
  | nil => rfl
  | cons c s hi =>
    cases hs : Path.splitSlashes s <;> simp [parts, Path.splitSlashes, hi, hs]

theorem textChars_cons : textChars (t :: p) = '/' :: (escape t.toList ++ textChars p) := by
  simp [textChars]

theorem textChars_append : textChars (p ++ q) = textChars p ++ textChars q := by
  simp [textChars]

theorem textChars_ne_nil (h : p ≠ []) : (textChars p).head? = some '/' := by
  obtain ⟨t, p, rfl⟩ := List.exists_cons_of_ne_nil h
  simp [textChars_cons]

theorem parts_textChars (t : String) (p : Pointer) :
    parts (escape t.toList ++ textChars p) = (t :: p).map (escape ·.toList) := by
  induction p generalizing t with
  | nil => simp [parts_eq, textChars, Path.splitSlashes_of_no_slash (slash_notMem_escape _)]
  | cons u p hi =>
    have hp := hi u
    rw [parts_eq] at hp
    rw [parts_eq, textChars_cons, Path.splitSlashes_append, hp, Path.splitSlashes_of_no_slash (slash_notMem_escape _),
      List.singleton_append, List.map_cons (l := u :: p)]

-- A pointer is read from its text, whatever characters its tokens have.
theorem read?_textChars (p : Pointer) : read? (textChars p) = some p := by
  cases p with
  | nil => rfl
  | cons t p => simp [textChars_cons, read?, parts_textChars, Function.comp_def, unescape_escape]

example : read? ['/', 'a', '~', '1', 'b', '/', '~', '0', '/'] = some ["a/b", "~", ""] := by decide

-- What follows a slash behind the text of a pointer lies below it.
theorem read?_textChars_append (p : Pointer) (rest : List Char) :
    ∃ r, read? (textChars p ++ '/' :: rest) = some (p ++ r) := by
  cases p with
  | nil => exact ⟨_, rfl⟩
  | cons t p =>
    refine ⟨(parts rest).map fun t => String.ofList (unescape t), ?_⟩
    have hp := parts_textChars t p
    rw [parts_eq] at hp
    rw [textChars_cons, List.cons_append, read?, parts_eq, Path.splitSlashes_append, hp, parts_eq]
    simp [Function.comp_def, unescape_escape]

-- Whether a pointer leads into a part shows in its text: there is a slash where the part's own text ends.
theorem textChars_begins_iff :
    (∃ rest, (textChars p = textChars q ++ rest) ∧ (rest = [] ∨ rest.head? = some '/')) ↔ q <+: p := by
  constructor
  · rintro ⟨rest, hp, hr⟩
    have hp' := hp ▸ read?_textChars p
    rcases hr with rfl | hr
    case inl =>
      rw [List.append_nil, read?_textChars] at hp'
      exact ⟨[], (List.append_nil q).trans (Option.some.inj hp')⟩
    case inr =>
      obtain ⟨rest, rfl⟩ := List.head?_eq_some_iff.mp hr
      obtain ⟨r, hr⟩ := read?_textChars_append q rest
      exact ⟨r, Option.some.inj (hr.symm.trans hp')⟩
  · rintro ⟨r, rfl⟩
    refine ⟨textChars r, textChars_append, ?_⟩
    by_cases hr : r = []
    case pos => exact .inl (by simp [hr, textChars])
    case neg => exact .inr (textChars_ne_nil hr)

end Read

theorem index?_toString (i : Nat) : index? (toString i) = some i := by
  have hn : Nat.toDigits 10 i ≠ [] := Nat.toDigits_ne_nil
  have ha : (Nat.toDigits 10 i).all Char.isDigit = true :=
    List.all_eq_true.mpr fun _ hc => Nat.isDigit_of_mem_toDigits (by decide) (by decide) hc
  have hv : (Nat.toDigits 10 i).foldl (fun n c => 10 * n + (c.toNat - 48)) 0 = i := Nat.ofDigitChars_ten_toDigits
  simp [index?, hn, ha, hv]

end Pointer

namespace Json

-- The parts of a value, each with the way that leads to it. Positions are written without leading zeros.
inductive Part : Json → Pointer → Json → Prop
  | root : Part v [] v
  | member (found : Keyed.find? k members = some x) (part : Part x p y) : Part (.obj members) (k :: p) y
  | item {items : List Json} {i : Nat} (found : items[i]? = some x) (part : Part x p y) :
    Part (.arr items) (toString i :: p) y

variable {v x : Json} {p : Pointer}

theorem Part.at? (h : Part v p x) : v.at? p = some x := by
  induction h with
  | root => rfl
  | member found _ hi => simp [Json.at?, Pointer.step?, found, hi]
  | item found _ hi =>
    rw [Json.at?, Pointer.step?, Pointer.index?_toString, Option.bind_some, found, Option.bind_some, hi]

end Json

end ModelForge
