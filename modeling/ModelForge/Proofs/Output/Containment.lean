import ModelForge.Proofs.Generation
import ModelForge.Proofs.Name
import ModelForge.Proofs.Path.Order

namespace ModelForge

namespace Name

variable {s : String} {c : Char}

theorem exists_cons_of_isIdentifier (h : isIdentifier s) :
    ∃ first rest, (s.toList = first :: rest) ∧ (startsIdentifier first) ∧ ∀ c ∈ rest, continuesIdentifier c := by
  have ⟨first, rest, hs⟩ := List.exists_cons_of_ne_nil (ne_nil_of_isIdentifier h)
  simp only [isIdentifier, hs, isIdentifierChars, Bool.and_eq_true, List.all_eq_true] at h
  exact ⟨first, rest, hs, h.left, h.right⟩

theorem notMem_of_isIdentifier (h : isIdentifier s) (hc : continuesIdentifier c = false) : c ∉ s.toList :=
  fun hm => absurd (continuesIdentifier_of_mem h hm) (by simp [hc])

end Name

namespace TypeName

variable {p : Path} {name : TypeName}

-- A type's name is that of every path whose stem it is.
theorem ofPath?_of_stem? (h : ofPath? p = some name) {q : Path} (hq : q.stem? = some name.text.toList) :
    ofPath? q = some name := by
  have hi := isIdentifier_of_ofPath? h
  have hd : '-' ∉ name.text.toList := Name.notMem_of_isIdentifier hi rfl
  obtain ⟨stem, hn⟩ : ∃ stem, name.text = Name.canonical (String.ofList stem) := by
    simp only [ofPath?] at h
    split at h
    case h_1 stem _ => split at h <;> cases h; exact ⟨stem, rfl⟩
    case h_2 => cases h
  have hc : Name.canonical name.text = name.text := by
    rw [hn] at hd ⊢
    exact Name.canonical_canonical_of_no_dash hd
  simp [ofPath?, hq, hc, hi]

end TypeName

-- Where a job puts its output, and what the output is called there.
structure Job.Contained (job : Job) (d : Document) (directory : Option Path) (l : Language) : Prop where
  -- The name of the type: it has nothing that a path or a command line could take for something else.
  name       : ∃ first rest, (job.typeName.text.toList = first :: rest) ∧
    (Text.isAlphabetic first ∨ first = '_') ∧ (∀ c ∈ rest, Text.isAlphanumeric c ∨ c = '_')
  excluded   : ∀ c ∈ ['/', '.', '-', '\x00'], c ∉ job.typeName.text.toList
  no_dots    : job.typeName.text ≠ ".."
  no_option  : job.typeName.text.toList.head? ≠ some '-'
  -- The place of the output: right inside the directory, whatever text the directory is given by.
  parent     : ∃ q, (job.output.parent? = some q) ∧ (q.components = (Output.directory d.path directory).components)
  components : job.output.components = (Output.directory d.path directory).components ++
    [.name (Text.Utf8.encode (job.typeName.text ++ "." ++ l.extension).toList)]
  fileName   : job.output.fileName? = some (job.typeName.text ++ "." ++ l.extension).toList
  stem       : job.output.stem? = some job.typeName.text.toList
  extension  : job.output.extension? = some l.extension.toList
  again      : TypeName.ofPath? job.output = some job.typeName

namespace Job

variable {job : Job} {d : Document} {directory : Option Path} {l : Language}

theorem contained (h : Job.of d l directory = .ok job) : job.Contained d directory l := by
  obtain ⟨_, _, hn, ho⟩ := of_ok h
  have hi := TypeName.isIdentifier_of_ofPath? hn
  have isName := (Output.isOutputName_of_ofPath? hn l).isName
  have ⟨first, rest, hs, hf, hr⟩ := Name.exists_cons_of_isIdentifier hi
  have hne := Name.ne_nil_of_isIdentifier hi
  -- The last dot of the file's name is the one in front of the extension.
  have hcut : (job.typeName.text ++ "." ++ l.extension).toList = job.typeName.text.toList ++ '.' :: l.extension.toList := by
    simp
  have hfile : job.output.fileName? = some (job.typeName.text ++ "." ++ l.extension).toList := by
    rw [ho]
    exact Path.fileName?_join isName
  have hstem : job.output.stem? = some job.typeName.text.toList := by
    simp [Path.stem?, hfile, hcut, Path.stemOf, Path.cutAtLastDot_append l.extension_no_dot, hne]
  have excluded : ∀ c ∈ ['/', '.', '-', '\x00'], c ∉ job.typeName.text.toList := by
    intro c hc
    have hc : Name.continuesIdentifier c = false := by
      simp only [List.mem_cons, List.not_mem_nil, or_false] at hc
      rcases hc with rfl | rfl | rfl | rfl <;> rfl
    exact Name.notMem_of_isIdentifier hi hc
  exact {
    name := by
      simp only [Name.startsIdentifier, Name.continuesIdentifier, Bool.or_eq_true, decide_eq_true_eq] at hf hr
      exact ⟨first, rest, hs, hf, hr⟩
    excluded
    no_dots hd := excluded '.' (by simp) (by simp [hd])
    no_option hd := excluded '-' (by simp) (List.mem_of_head? hd)
    parent := ⟨_, by rw [ho]; exact Output.parent?_path hn, Path.components_trimmed⟩
    components := by
      rw [ho]
      exact Path.components_join isName
    fileName := hfile
    stem := hstem
    extension := by
      simp [Path.extension?, hfile, hcut, Path.extensionOf?_append hne l.extension_no_dot]
    again := TypeName.ofPath?_of_stem? hn hstem }

-- A name whose capital form is longer than itself, and a directory with idle segments at its end.
theorem contained_sharpS :
    let d : Document := ⟨⟨"models/../ßeta-i.yaml"⟩, ""⟩
    let job : Job := ⟨d, .cPlusPlus, ⟨"SSetaI"⟩, ⟨"/srv//out/./SSetaI.cpp"⟩⟩
    (Job.of d .cPlusPlus (some ⟨"/srv//out/."⟩) = .ok job) ∧ (job.Contained d (some ⟨"/srv//out/."⟩) .cPlusPlus) := by
  intro d job
  have h : Job.of d .cPlusPlus (some ⟨"/srv//out/."⟩) = .ok job := by decide +kernel
  exact ⟨h, contained h⟩

end Job

end ModelForge
