import ModelForge.Document
import ModelForge.Proofs.FileSystem.Write
import ModelForge.Proofs.Output

namespace ModelForge.FileSystem

-- Locations that a generated file can have.
inductive IsOutputLocation : Location → Prop
  | intro (name : IsOutputName n) : IsOutputLocation (front ++ [n])

-- Generated files have come or changed, nothing else.
inductive Rewritten (fs : FileSystem) : FileSystem → Prop
  | refl : Rewritten fs fs
  | step (before : Rewritten fs fs') (location : IsOutputLocation l) (last : Overwrites fs' fs'' l content) :
    Rewritten fs fs''

variable {fs fs' : FileSystem} {l : Location} {e : Entry} {t : Target} {p d : Path} {n : String}

theorem isOutputName_of_append {front : Location} (h : IsOutputLocation (front ++ [n])) : IsOutputName n := by
  generalize hg : front ++ [n] = l at h
  obtain ⟨hn⟩ := h
  obtain rfl := List.singleton_inj.mp (List.append_inj_right' hg rfl)
  exact hn

-- A model never lies where a generated file does.
theorem not_isOutputLocation (hl : fs.Linkless) (hr : fs.resolve p = .ok t)
    (hm : p.hasExtension Discovery.modelExtension) : ¬IsOutputLocation t.location := by
  intro ho
  cases hp : p.fileName? with
  | none => simp [Path.hasExtension, Path.extension?, hp] at hm
  | some name =>
    obtain ⟨front, hf⟩ : ∃ front, fs.locate p = front ++ [String.ofList name] := locate_of_fileName? hp
    rw [hl.locate hr, hf] at ho
    simp [(isOutputName_of_append ho).not_model (p := p) (by simp [hp])] at hm

namespace Rewritten

theorem linkless (h : Rewritten fs fs') (hl : fs.Linkless) : fs'.Linkless := by
  induction h with
  | refl => exact hl
  | step _ _ o hi => exact o.linkless hi

theorem isDirectory_eq (h : Rewritten fs fs') : fs'.isDirectory p = fs.isDirectory p := by
  induction h with
  | refl => rfl
  | step _ _ o hi => rw [o.isDirectory_eq, hi]

theorem resolve_iff (h : Rewritten fs fs') (hn : ¬IsOutputLocation t.location) :
    (fs'.resolve p = .ok t) ↔ (fs.resolve p = .ok t) := by
  induction h with
  | refl => exact .rfl
  | @step _ l _ _ _ ho o hi =>
    have hne : t.location ≠ l := fun hl => hn (hl ▸ ho)
    rw [← hi]
    exact ⟨fun hr => o.toAgree.symm.resolve hr hne, fun hr => o.toAgree.resolve hr hne⟩

theorem resolve (h : Rewritten fs fs') (hr : fs.resolve p = .ok t) (hn : ¬IsOutputLocation t.location) :
    fs'.resolve p = .ok t :=
  (h.resolve_iff hn).mpr hr

theorem read_eq (h : Rewritten fs fs') (hr : fs.resolve p = .ok (.entry l e)) (hn : ¬IsOutputLocation l) :
    fs'.read p = fs.read p := by
  induction h with
  | refl => rfl
  | step h ho o hi => rw [o.read (h.resolve hr hn) fun hl => hn (hl ▸ ho), hi]

theorem document_eq (h : Rewritten fs fs') (hl : fs.Linkless) (hf : fs.isFile p)
    (hm : p.hasExtension Discovery.modelExtension) : Document.read fs' p = Document.read fs p := by
  have ⟨l, _, _, hr⟩ := isFile_iff.mp hf
  simp only [Document.read, readText, h.read_eq hr (not_isOutputLocation hl hr hm)]

-- What comes of writing below a directory does not depend on what was written before.
theorem write_map (h : Rewritten fs fs') (hl : fs.Linkless) (hn : Path.IsName n.toList)
    (hd : fs.isDirectory d.trimmed) (content : Bytes) : (fs'.write (d.join ⟨n⟩) content).map (fun _ => ()) =
      (fs.write (d.join ⟨n⟩) content).map (fun _ => ()) := by
  induction h with
  | refl => rfl
  | step h ho o hi =>
    have hj := o.resolve_join (h.linkless hl) hn (h.isDirectory_eq.trans hd)
    rw [← hi, FileSystem.write_map, FileSystem.write_map, hj, o.writable_eq]

end Rewritten

end ModelForge.FileSystem
