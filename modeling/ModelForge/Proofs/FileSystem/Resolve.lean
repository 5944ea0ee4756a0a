import ModelForge.Proofs.FileSystem.Walk

namespace ModelForge.FileSystem

variable {fs fs' : FileSystem} {l l' : Location} {e : Entry} {t : Target} {p d : Path} {n : String}

-- A walk takes the steps of its path, and idle ones.
theorem walkSteps_filter : (walkSteps p).filter (· ≠ ".") = p.steps.map String.ofList := by
  have hd (s : List Char) : (String.ofList s = ".") ↔ (s = ['.']) := by simp [← String.toList_inj]
  have hf (parts : List (List Char)) : ((parts.filter (· ≠ [])).map String.ofList).filter (· ≠ ".") =
      (parts.filter (!Path.isIdle ·)).map String.ofList := by
    simp [List.filter_map, List.filter_filter, Path.isIdle, Function.comp_def, hd, Bool.and_comm]
  simp only [walkSteps, Path.steps_eq]
  split
  · rw [List.filter_append, hf]; simp
  · exact hf _

theorem foldl_descend_filter (s : List String) (here : Location) :
    s.foldl descend here = (s.filter (· ≠ ".")).foldl descend here := by
  induction s generalizing here with
  | nil => rfl
  | cons step s hi =>
    by_cases hd : step = "."
    case pos => simpa [hd, descend] using hi here
    case neg => simpa [hd] using hi _

theorem locate_eq : fs.locate p = (p.steps.map String.ofList).foldl descend (startOf p fs.home) := by
  rw [locate, foldl_descend_filter, walkSteps_filter]

theorem locate_of_fileName? {name : List Char} (h : p.fileName? = some name) :
    ∃ front, fs.locate p = front ++ [String.ofList name] := by
  have ⟨hs, _⟩ := Path.getLast?_of_fileName? h
  obtain ⟨front, hf⟩ := List.getLast?_eq_some_iff.mp hs
  have hn : Path.IsName (String.ofList name).toList := by simpa using Path.isName_of_fileName? h
  refine ⟨(front.map String.ofList).foldl descend (startOf p fs.home), ?_⟩
  simp [locate_eq, hf, descend, hn.text_ne_dot, hn.text_ne_dots]

theorem startOf_join (h : Path.IsName n.toList) (here : Location) :
    startOf (d.join ⟨n⟩) here = startOf d here := by
  simp [startOf, Path.isAbsolute_join h]

theorem locate_join (h : Path.IsName n.toList) : fs.locate (d.join ⟨n⟩) = fs.locate d ++ [n] := by
  simp [locate_eq, Path.steps_join h, startOf_join h, descend, h.text_ne_dot, h.text_ne_dots]

theorem locate_trimmed : fs.locate d.trimmed = fs.locate d := by
  simp [locate_eq, Path.steps_trimmed, startOf, Path.isAbsolute_trimmed]

theorem walkSteps_join (h : Path.IsName n.toList) : ∃ steps, (walkSteps (d.join ⟨n⟩) = steps ++ [n]) ∧
    (steps.filter (· ≠ ".") = d.steps.map String.ofList) := by
  have ⟨parts, hp, hs⟩ := Path.splitSlashes_join (d := d) h
  have hw : walkSteps (d.join ⟨n⟩) = (parts.filter (· ≠ [])).map String.ofList ++ [n] := by
    simp [walkSteps, hp, h.ne_nil]
  refine ⟨_, hw, ?_⟩
  have hf := walkSteps_filter (p := d.join ⟨n⟩)
  rw [hw, Path.steps_join h, List.filter_append, List.map_append] at hf
  simpa [h.text_ne_dot] using hf

section Resolve

theorem resolve_ok_iff : (fs.resolve p = .ok t) ↔
    (¬p.text.isEmpty ∧ ¬p.text.toList.contains '\x00' ∧ ¬p.text.utf8ByteSize ≥ pathLimit ∧
      Walks fs linkLimit (startOf p fs.home) (walkSteps p) t) := by
  simp only [resolve, ← walk_ok_iff]
  by_cases he : p.text.isEmpty <;> by_cases hn : p.text.toList.contains '\x00' <;>
    by_cases hs : p.text.utf8ByteSize ≥ pathLimit <;> simp only [he, hn, hs] <;> simp

theorem resolve_target (h : fs.resolve p = .ok t) : t = fs.targetAt t.location :=
  (resolve_ok_iff.mp h).right.right.right.target

theorem at?_of_resolve (h : fs.resolve p = .ok (.entry l e)) : fs.at? l = some e := by
  have ht := resolve_target h
  simp only [targetAt, Target.location] at ht
  split at ht <;> simp_all

theorem at?_of_resolve_free (h : fs.resolve p = .ok (.free l)) : fs.at? l = none := by
  have ht := resolve_target h
  simp only [targetAt, Target.location] at ht
  split at ht <;> simp_all

theorem exists_iff : fs.exists p ↔ ∃ l e, fs.resolve p = .ok (.entry l e) := by
  simp only [«exists», entry]
  cases h : fs.resolve p with
  | error e => simp [Except.isOk, Except.toBool]
  | ok t => cases t <;> simp [Except.isOk, Except.toBool]

theorem isDirectory_iff : fs.isDirectory p ↔ ∃ l, fs.resolve p = .ok (.entry l .directory) := by
  simp only [isDirectory, entry]
  split
  case h_1 h => split at h <;> simp_all
  case h_2 h => split at h <;> simp_all

theorem exists_of_isDirectory (h : fs.isDirectory p) : fs.exists p :=
  have ⟨l, hr⟩ := isDirectory_iff.mp h
  exists_iff.mpr ⟨l, .directory, hr⟩

theorem isFile_iff : fs.isFile p ↔ ∃ l content x, fs.resolve p = .ok (.entry l (.file content x)) := by
  simp only [isFile, entry]
  split
  case h_1 h => split at h <;> simp_all
  case h_2 h => split at h <;> simp_all

theorem Linkless.locate (hl : fs.Linkless) (h : fs.resolve p = .ok t) : t.location = fs.locate p :=
  (resolve_ok_iff.mp h).right.right.right.location hl

-- A name below a directory is looked for in the directory.
theorem resolve_join (hl : fs.Linkless) (h : Path.IsName n.toList) (hd : fs.isDirectory d.trimmed) :
    fs.resolve (d.join ⟨n⟩) =
      if (d.join ⟨n⟩).text.toList.contains '\x00' then .error .nulInPath
      else if (d.join ⟨n⟩).text.utf8ByteSize ≥ pathLimit then .error .nameTooLong
      else if !fs.allows .search (fs.locate d) then .error .permissionDenied
      else if n.utf8ByteSize > nameLimit then .error .nameTooLong
      else .ok (fs.targetAt (fs.locate d ++ [n])) := by
  have ⟨ld, hr⟩ := isDirectory_iff.mp hd
  have ⟨_, _, _, w⟩ := resolve_ok_iff.mp hr
  have hld : ld = fs.locate d := locate_trimmed (d := d) ▸ hl.locate hr
  have he : (d.join ⟨n⟩).text.isEmpty = false := by
    simp [← String.toList_eq_nil_iff, Path.toList_join h, h.ne_nil]
  have ⟨steps, hs, hf⟩ := walkSteps_join (d := d) h
  have hw : fs.walk linkLimit (startOf (d.join ⟨n⟩) fs.home) (walkSteps (d.join ⟨n⟩)) =
      fs.walk linkLimit ld [n] := by
    have hst : startOf (d.join ⟨n⟩) fs.home = startOf d.trimmed fs.home := by
      simp [startOf, Path.isAbsolute_join h, Path.isAbsolute_trimmed]
    rw [hs, hst, walk_filter hl, hf, ← Path.steps_trimmed, ← walkSteps_filter, ← walk_filter hl, w.append hl]
  rw [resolve, he, hw, walk_name hl (at?_of_resolve hr) h, hld]
  simp

end Resolve

end ModelForge.FileSystem
