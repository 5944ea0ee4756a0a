import ModelForge.Discovery
import ModelForge.Language
import ModelForge.Proofs.Path

namespace ModelForge

namespace Name

theorem not_continuesIdentifier_slash : continuesIdentifier '/' = false := rfl

theorem not_continuesIdentifier_dot : continuesIdentifier '.' = false := rfl

theorem continuesIdentifier_of_starts {c : Char} (h : startsIdentifier c) : continuesIdentifier c := by
  simp only [startsIdentifier, continuesIdentifier, Text.isAlphanumeric, Bool.or_eq_true] at *
  cases h <;> simp [*]

variable {s : String} {c : Char}

theorem ne_nil_of_isIdentifier (h : isIdentifier s) : s.toList ≠ [] := by
  intro hs
  simp [isIdentifier, hs, isIdentifierChars] at h

theorem continuesIdentifier_of_mem (h : isIdentifier s) (hc : c ∈ s.toList) : continuesIdentifier c := by
  rw [isIdentifier] at h
  cases hs : s.toList with
  | nil => simp [hs] at hc
  | cons first rest =>
    simp only [hs, isIdentifierChars, Bool.and_eq_true, List.all_eq_true, List.mem_cons] at h hc
    cases hc
    case inl hc => exact hc ▸ continuesIdentifier_of_starts h.left
    case inr hc => exact h.right c hc

theorem no_slash_of_isIdentifier (h : isIdentifier s) : '/' ∉ s.toList :=
  fun hc => absurd (continuesIdentifier_of_mem h hc) (by simp [not_continuesIdentifier_slash])

theorem no_dot_of_isIdentifier (h : isIdentifier s) : '.' ∉ s.toList :=
  fun hc => absurd (continuesIdentifier_of_mem h hc) (by simp [not_continuesIdentifier_dot])

end Name

namespace Path

theorem cutAtLastDot_append {before after : List Char} (h : '.' ∉ after) :
    cutAtLastDot (before ++ '.' :: after) = some (before, after) := by
  have ha : ∀ c ∈ after.reverse, decide (c ≠ '.') = true := fun c hc => by
    simp only [ne_eq, decide_not, Bool.not_eq_true', decide_eq_false_iff_not]
    intro hd
    exact h (hd ▸ List.mem_reverse.mp hc)
  have ht : ((before ++ '.' :: after).reverse.takeWhile (· ≠ '.')) = after.reverse := by
    rw [List.reverse_append, List.reverse_cons, List.append_assoc, List.takeWhile_append_of_pos ha]
    simp
  simp only [cutAtLastDot, ht, List.reverse_reverse, List.length_append, List.length_cons]
  rw [if_neg (by omega), show before.length + (after.length + 1) - after.length - 1 = before.length by omega]
  simp

theorem extensionOf?_append {before after : List Char} (hb : before ≠ []) (ha : '.' ∉ after) :
    extensionOf? (before ++ '.' :: after) = some after := by
  simp [extensionOf?, cutAtLastDot_append ha, hb]

end Path

namespace Language

theorem extension_no_dot (l : Language) : '.' ∉ l.extension.toList := by
  cases l <;> decide

theorem extension_no_slash (l : Language) : '/' ∉ l.extension.toList := by
  cases l <;> decide

-- No generated file can be taken for a model, whatever the case of its letters.
theorem extension_not_model (l : Language) :
    (l.extension.toList.map Char.toLower == Discovery.modelExtension.toList) = false := by
  cases l <;> decide

end Language

-- Names of the files that generation writes.
inductive IsOutputName : String → Prop
  | intro {name : String} (l : Language) (identifier : Name.isIdentifier name) :
    IsOutputName (name ++ "." ++ l.extension)

namespace IsOutputName

variable {n : String}

theorem isName : IsOutputName n → Path.IsName n.toList
  | intro l h => by
    have hn := Name.no_slash_of_isIdentifier h
    have hd := Name.no_dot_of_isIdentifier h
    have hl := l.extension_no_slash
    have ⟨c, rest, hc⟩ := List.exists_cons_of_ne_nil (Name.ne_nil_of_isIdentifier h)
    constructor <;> simp_all
    exact fun hc => absurd hc.symm hd.left

theorem not_model {p : Path} : IsOutputName n → (p.fileName? = some n.toList) →
    p.hasExtension Discovery.modelExtension = false
  | @intro name l h, hp => by
    have hn : (name ++ "." ++ l.extension).toList = name.toList ++ '.' :: l.extension.toList := by simp
    have he := Path.extensionOf?_append (Name.ne_nil_of_isIdentifier h) l.extension_no_dot
    have hm := l.extension_not_model
    simp [Path.hasExtension, Path.extension?, hp, hn, he, hm]

theorem join_not_model {d : Path} (h : IsOutputName n) : (d.join ⟨n⟩).hasExtension Discovery.modelExtension = false :=
  h.not_model (Path.fileName?_join h.isName)

end IsOutputName

theorem TypeName.isIdentifier_of_ofPath? {p : Path} {name : TypeName} (h : ofPath? p = some name) :
    Name.isIdentifier name.text := by
  simp only [ofPath?] at h
  split at h
  · split at h <;> simp_all
    simp_all [← h]
  · simp at h

namespace Output

variable {input : Path} {given : Option Path} {name : TypeName} {p : Path} {l : Language}

theorem isOutputName_of_ofPath? (h : TypeName.ofPath? p = some name) (l : Language) :
    IsOutputName (name.text ++ "." ++ l.extension) :=
  .intro l (TypeName.isIdentifier_of_ofPath? h)

-- The directory that has to be there is the one that the output goes to.
theorem parent?_path (h : TypeName.ofPath? p = some name) :
    (path input given name.text l.extension).parent? = some (directory input given).trimmed :=
  Path.parent?_join (isOutputName_of_ofPath? h l).isName

end Output

end ModelForge
