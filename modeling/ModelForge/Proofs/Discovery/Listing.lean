import ModelForge.Document
import ModelForge.Proofs.Discovery
import ModelForge.Proofs.Keyed
import ModelForge.Proofs.Output
import ModelForge.Proofs.Path.Order

namespace ModelForge

-- Names with the extension of model files: something, the last dot, and `json` in any case.
def IsModelName (n : String) : Prop :=
  ∃ before after, (n.toList = before ++ '.' :: after) ∧ (before ≠ []) ∧ ('.' ∉ after) ∧
    (after.map Char.toLower = ['j', 's', 'o', 'n'])

namespace Path

variable {p d : Path} {n : String}

theorem cutAtLastDot_eq_some {name before after : List Char} (h : cutAtLastDot name = some (before, after)) :
    (name = before ++ '.' :: after) ∧ ('.' ∉ after) := by
  by_cases hd : '.' ∈ name
  case pos =>
    obtain ⟨back, front, hs, hb⟩ := List.eq_append_cons_of_mem (List.mem_reverse.mpr hd)
    have hn : name = front.reverse ++ '.' :: back.reverse := by
      rw [← List.reverse_reverse name, hs]
      simp
    have hb : '.' ∉ back.reverse := by simpa using hb
    rw [hn, cutAtLastDot_append hb] at h
    obtain ⟨rfl, rfl⟩ := Prod.mk.inj (Option.some.inj h)
    exact ⟨hn, hb⟩
  case neg =>
    have ht : name.reverse.takeWhile (fun c => !decide (c = '.')) = name.reverse := by
      refine List.takeWhile_eq_self_iff.mpr fun c hc => ?_
      have hc : c ≠ '.' := fun hc' => hd (hc' ▸ List.mem_reverse.mp hc)
      simp [hc]
    simp [cutAtLastDot, ht] at h

theorem hasExtension_join_iff (h : IsName n.toList) :
    (d.join ⟨n⟩).hasExtension Discovery.modelExtension ↔ IsModelName n := by
  have hj : Discovery.modelExtension.toList = ['j', 's', 'o', 'n'] := rfl
  simp only [hasExtension, extension?, fileName?_join h, Option.bind_some, hj]
  constructor
  · intro he
    split at he <;> try contradiction
    case h_1 after hx =>
      simp only [extensionOf?] at hx
      split at hx <;> try contradiction
      case h_1 before _ hc =>
        split at hx <;> cases hx
        case isFalse hb =>
          obtain ⟨hn, ha⟩ := cutAtLastDot_eq_some hc
          exact ⟨before, after, hn, hb, ha, by simpa using he⟩
  · rintro ⟨before, after, hn, hb, ha, he⟩
    simp [hn, extensionOf?_append hb ha, he]

theorem hasExtension_unique {e e' : String} (h : p.hasExtension e) (h' : p.hasExtension e') : e = e' := by
  simp only [hasExtension] at h h'
  split at h <;> try contradiction
  case h_1 x hx =>
    simp only [hx, beq_iff_eq] at h h'
    exact String.toList_inj.mp (h.symm.trans h')

theorem format_of_hasExtension (h : p.hasExtension Discovery.modelExtension) : Format.ofPath p = .json := by
  have other {e : String} (hn : Discovery.modelExtension ≠ e) : p.hasExtension e = false :=
    Bool.eq_false_iff.mpr fun he => hn (hasExtension_unique h he)
  simp [Format.ofPath, other (e := "yaml") (by decide), other (e := "yml") (by decide)]

theorem directory_join (h : IsName n.toList) (hd : d.text ≠ "") :
    Output.directory (d.join ⟨n⟩) none = d.trimmed := by
  simp [Output.directory, parent?_join h, trimmed_ne_empty hd]

theorem join_ne (h : IsName n.toList) : d.join ⟨n⟩ ≠ d := by
  intro hj
  have ht := congrArg (·.text.toList.length) hj
  have hn := List.length_pos_iff.mpr h.ne_nil
  simp only [toList_join h, List.length_append] at ht
  omega

end Path

namespace FileSystem

variable {fs : FileSystem} {l : Location} {n : String} {p : Path}

theorem mem_childNames_iff : n ∈ fs.childNames l ↔ (fs.at? (l ++ [n])).isSome := by
  have hl : l ++ [n] ≠ [] := by simp
  rw [childNames_eq, List.mem_filterMap, at?, if_neg hl, Keyed.find?_isSome_iff]
  constructor
  · rintro ⟨k, hk, h⟩
    exact eq_append_of_child h ▸ hk
  · intro hk
    exact ⟨l ++ [n], hk, by simp⟩

end FileSystem

namespace Discovery

-- What the discovery of the models in a directory comes to.
structure Listing (fs : FileSystem) (input : Path) (l : Location) (is : List Path) : Prop where
  -- A model is an entry right inside, under its name or through a link a file, and named like a model.
  mem_iff    : ∀ i, i ∈ is ↔
    ∃ n, (fs.at? (l ++ [n])).isSome ∧ IsModelName n ∧ (i = input.join ⟨n⟩) ∧ fs.isFile i
  increasing : is.Pairwise Path.Before
  siblings   : ∀ n n', Path.IsName n.toList → Path.IsName n'.toList →
    ((input.join ⟨n⟩).Before (input.join ⟨n'⟩) ↔ Text.Utf8.encode n.toList < Text.Utf8.encode n'.toList)
  nodup      : is.Nodup
  -- Whatever order the names are listed in.
  anyOrder   : ∀ names, names.Perm (fs.childNames l) → modelsIn fs input names = is
  format     : ∀ i ∈ is, Format.ofPath i = .json
  output     : ∀ i ∈ is, (Output.directory i none).components = input.components

variable {fs : FileSystem} {l : Location} {input i : Path} {is : List Path} {n : String}

theorem listing_modelsIn (wf : fs.WellFormed) (hr : fs.resolve input = .ok (.entry l .directory)) :
    Listing fs input l (modelsIn fs input (fs.childNames l)) where
  mem_iff i := by
    have hm (n : String) (h : n ∈ fs.childNames l) : isModel fs (input.join ⟨n⟩) ↔
        IsModelName n ∧ fs.isFile (input.join ⟨n⟩) := by
      rw [isModel, Bool.and_eq_true, Path.hasExtension_join_iff (wf.isName_of_child h), and_comm]
    simp only [modelsIn, List.mem_filter, List.mem_map, List.mem_mergeSort, ← FileSystem.mem_childNames_iff]
    constructor
    · rintro ⟨⟨n, hn, rfl⟩, hi⟩
      obtain ⟨h₁, h₂⟩ := (hm n hn).mp hi
      exact ⟨n, hn, h₁, rfl, h₂⟩
    · rintro ⟨n, hn, h₁, rfl, h₂⟩
      exact ⟨⟨n, hn, rfl⟩, (hm n hn).mpr ⟨h₁, h₂⟩⟩
  increasing := by
    -- The names come in the order of their characters, and no name comes twice.
    let names := (fs.childNames l).mergeSort fun a b => decide (a ≤ b)
    have hd : names.Nodup := (List.mergeSort_perm ..).nodup_iff.mpr wf.nodup_childNames
    have hs : names.Pairwise (· < ·) :=
      (pairwise_mergeSort _).imp₂ (fun a b hle hne => Decidable.byContradiction fun hlt =>
        hne (Std.Trichotomous.trichotomous (r := fun a b : String => a < b) a b hlt hle)) hd
    have hn : ∀ n ∈ names, Path.IsName n.toList := fun n hn => wf.isName_of_child (List.mem_mergeSort.mp hn)
    refine List.Pairwise.filter _ (List.pairwise_map.mpr ?_)
    refine List.Pairwise.imp_of_mem (fun {n n'} hm hm' h => ?_) hs
    exact (Path.join_before_iff (hn n hm) (hn n' hm')).mpr (Text.Utf8.encode_lt h)
  siblings n n' hn hn' := Path.join_before_iff hn hn'
  nodup := nodup_modelsIn wf.nodup_childNames fun _ => wf.isName_of_child
  anyOrder names h := by
    rw [modelsIn, modelsIn, mergeSort_congr h]
  format i hi := by
    exact Path.format_of_hasExtension (Bool.and_eq_true_iff.mp (isModel_of_mem_modelsIn hi)).right
  output i hi := by
    obtain ⟨n, hn, rfl⟩ := mem_modelsIn hi
    have ht : input.text ≠ "" := fun ht => (FileSystem.resolve_ok_iff.mp hr).left (by simp [ht])
    rw [Path.directory_join (wf.isName_of_child hn) ht, Path.components_trimmed]

-- What is discovered, in every file system and for every path: nothing where the path leads nowhere, the path
-- itself where it does not lead to a directory, and else the models in the directory.
theorem inputs_exact (wf : fs.WellFormed) :
    (inputs fs input = .error (.pathNotFound input) ↔ ¬∃ l e, fs.resolve input = .ok (.entry l e)) ∧
    (inputs fs input = .ok [input] ↔ ∃ l e, fs.resolve input = .ok (.entry l e) ∧ e ≠ .directory) ∧
    ∀ l, fs.resolve input = .ok (.entry l .directory) → fs.allows .read l →
      ∃ is, inputs fs input = .ok is ∧ Listing fs input l is := by
  have missing (hn : ¬∃ l e, fs.resolve input = .ok (.entry l e)) :
      inputs fs input = .error (.pathNotFound input) := by
    have he : fs.exists input = false := Bool.eq_false_iff.mpr (mt FileSystem.exists_iff.mp hn)
    simp [inputs, he]
  have single {l : Location} {e : Entry} (hr : fs.resolve input = .ok (.entry l e)) (hd : e ≠ .directory) :
      inputs fs input = .ok [input] := by
    have he : fs.exists input := FileSystem.exists_iff.mpr ⟨l, e, hr⟩
    have hn : fs.isDirectory input = false := by
      simp [Bool.eq_false_iff, FileSystem.isDirectory_iff, hr, hd]
    simp [inputs, he, hn]
  refine ⟨⟨?_, missing⟩, ⟨?_, ?_⟩, ?_⟩
  · rintro h ⟨l, e, hr⟩
    by_cases hd : e = .directory
    case pos =>
      rw [inputs_of_directory (hd ▸ hr)] at h
      split at h <;> simp at h
    case neg => simp [single hr hd] at h
  · intro h
    by_cases he : ∃ l e, fs.resolve input = .ok (.entry l e)
    case neg => simp [missing he] at h
    case pos =>
      obtain ⟨l, e, hr⟩ := he
      refine ⟨l, e, hr, fun hd => ?_⟩
      rw [inputs_of_directory (hd ▸ hr)] at h
      split at h <;> try contradiction
      case isTrue =>
        have hm : input ∈ modelsIn fs input (fs.childNames l) := by simp [Except.ok.inj h]
        obtain ⟨n, hn, hj⟩ := mem_modelsIn hm
        exact Path.join_ne (wf.isName_of_child hn) hj.symm
  · rintro ⟨l, e, hr, hd⟩
    exact single hr hd
  · intro l hr ha
    exact ⟨_, by rw [inputs_of_directory hr, if_pos ha], listing_modelsIn wf hr⟩

section Shelf

open FileSystem

-- Two models, one of them behind a link; a name without an extension, and a link that leads nowhere.
def shelf : FileSystem where
  entries := [(["m"], .directory), (["m", "..json"], .file [] false), (["m", ".json"], .file [] false),
    (["m", "a.b.JSON"], .link ⟨"..json"⟩), (["m", "c.json"], .link ⟨"d.json"⟩)]

theorem wellFormed_shelf : shelf.WellFormed where
  distinct := by decide
  names := by decide

theorem resolve_shelf : shelf.resolve ⟨"m/"⟩ = .ok (.entry ["m"] .directory) := by
  have w : Walks shelf linkLimit [] ["m", "."] (.entry ["m"] .directory) :=
    .down ⟨rfl, rfl⟩ ⟨by decide, by decide, by decide⟩ rfl (by simp) (.stay ⟨rfl, rfl⟩ (.arrive rfl))
  exact resolve_ok_iff.mpr ⟨by decide, by decide, by decide, w⟩

theorem isFile_shelf : shelf.isFile ⟨"m/a.b.JSON"⟩ := by
  have w : Walks shelf linkLimit [] ["m", "a.b.JSON"] (.entry ["m", "..json"] (.file [] false)) :=
    .down ⟨rfl, rfl⟩ ⟨by decide, by decide, by decide⟩ rfl (by simp) <|
      .follow ⟨rfl, rfl⟩ ⟨by decide, by decide, by decide⟩ rfl <|
        .down ⟨rfl, rfl⟩ ⟨by decide, by decide, by decide⟩ rfl (by simp) (.arrive rfl)
  exact isFile_iff.mpr ⟨_, _, _, resolve_ok_iff.mpr ⟨by decide, by decide, by decide, w⟩⟩

theorem inputs_exact_shelf : (shelf.WellFormed) ∧ (shelf.resolve ⟨"m/"⟩ = .ok (.entry ["m"] .directory)) ∧
    ∃ is, (inputs shelf ⟨"m/"⟩ = .ok is) ∧ (⟨"m/a.b.JSON"⟩ ∈ is) ∧ (⟨"m/.json"⟩ ∉ is) := by
  obtain ⟨is, hs, listing⟩ := (inputs_exact wellFormed_shelf).right.right ["m"] resolve_shelf rfl
  have named : IsModelName "a.b.JSON" :=
    (Path.hasExtension_join_iff (d := ⟨"m/"⟩) (by decide)).mp (by decide)
  have unnamed : ¬IsModelName ".json" :=
    mt (Path.hasExtension_join_iff (d := ⟨"m/"⟩) (by decide)).mpr (by decide)
  refine ⟨wellFormed_shelf, resolve_shelf, is, hs, ?_, ?_⟩
  · exact (listing.mem_iff _).mpr ⟨"a.b.JSON", by decide, named, by decide, isFile_shelf⟩
  · intro hm
    obtain ⟨n, hn, hi, hj, _⟩ := (listing.mem_iff _).mp hm
    have hn := wellFormed_shelf.isName_of_child (mem_childNames_iff.mpr hn)
    obtain rfl : n = ".json" := Path.join_inj (d := ⟨"m/"⟩) hn (by decide) hj.symm
    exact unnamed hi

end Shelf

end Discovery

end ModelForge
