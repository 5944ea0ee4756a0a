import ModelForge.Proofs.FileSystem.Write
import ModelForge.Proofs.Keyed

namespace ModelForge.FileSystem

-- A file has the content already that would be written to it.
def Settled (fs : FileSystem) (p : Path) (content : Bytes) : Prop :=
  fs.write p content = .ok fs

variable {fs fs' : FileSystem} {l l' : Location} {e : Entry} {t t' : Target} {p p' : Path} {content content' : Bytes}
  {x : Bool} {before : List (Location × Entry)}

theorem write_cases (h : fs.write p content = .ok fs') :
    (∃ l content' x, (fs.resolve p = .ok (.entry l (.file content' x))) ∧ (fs.allows .write l) ∧
      (fs' = fs.overwrite l content x)) ∨
    (∃ l, (fs.resolve p = .ok (.free l)) ∧ (fs.allows .write l.dropLast) ∧ (fs' = fs.create l content)) := by
  rw [write] at h
  split at h <;> try contradiction
  case h_1 hr =>
    split at h <;> cases h
    case isFalse hw => exact .inl ⟨_, _, _, hr, by simpa using hw, rfl⟩
  case h_3 hr =>
    split at h <;> cases h
    case isFalse hw => exact .inr ⟨_, hr, by simpa using hw, rfl⟩

-- What a write does to the entries.
theorem entries_of_write (h : fs.write p content = .ok fs') : ∃ t x, (fs.resolve p = .ok t) ∧
    (fs'.entries = Keyed.put t.location (.file content x) fs.entries) := by
  rcases write_cases h with ⟨l, _, x, hr, _, rfl⟩ | ⟨l, hr, _, rfl⟩
  case inl => exact ⟨_, x, hr, rfl⟩
  case inr => exact ⟨_, false, hr, rfl⟩

theorem ne_nil_of_resolve (h : fs.resolve p = .ok (.entry l (.file content x))) : l ≠ [] := by
  rintro rfl
  simpa using at?_of_resolve h

-- The entry at the location of a put is the one that was put.
theorem eq_of_resolve_of_put (h : fs.resolve p = .ok (.entry l (.file content x)))
    (hp : fs.entries = Keyed.put l e before) : e = .file content x := by
  have ha := at?_of_resolve h
  rw [at?, if_neg (ne_nil_of_resolve h), hp, Keyed.find?_put_self] at ha
  exact Option.some.inj ha

theorem settled_iff : fs.Settled p content ↔ ∃ l x, (fs.resolve p = .ok (.entry l (.file content x))) ∧
    (fs.allows .write l) ∧ (Keyed.put l (.file content x) fs.entries = fs.entries) := by
  constructor
  case mpr =>
    intro ⟨l, x, hr, hw, hp⟩
    simp [Settled, write, hr, hw, overwrite, set, hp]
  case mp =>
    intro h
    rcases write_cases h with ⟨l, content', x, hr, hw, hs⟩ | ⟨l, hr, hw, hs⟩
    case inl =>
      have hp : fs.entries = Keyed.put l (.file content x) fs.entries := congrArg entries hs
      exact ⟨l, x, eq_of_resolve_of_put hr hp ▸ hr, hw, hp.symm⟩
    case inr =>
      -- A file that is made was not there before.
      have o : Overwrites fs (fs.create l content) l content := .create (at?_of_resolve_free hr) (parent_of_resolve hr) hw
      obtain ⟨x, hc⟩ := o.content
      rw [← hs, at?_of_resolve_free hr] at hc
      contradiction

-- A second write of the same changes nothing.
theorem settled_of_write (h : fs.write p content = .ok fs') : fs'.Settled p content := by
  have ⟨t, hr, o⟩ := write_ok h
  have ⟨x, hr'⟩ := o.resolve hr rfl
  have ⟨_, x', hr'', he⟩ := entries_of_write h
  obtain rfl := Except.ok.inj (hr.symm.trans hr'')
  have hw : fs'.allows .write t.location := by
    have ha := o.after
    rw [writable, at?_of_resolve hr'] at ha
    by_contra hn
    simp [hn] at ha
  exact settled_iff.mpr ⟨_, x, hr', hw, by rw [← eq_of_resolve_of_put hr' he, he, Keyed.put_put_self]⟩

-- What is settled stays so when another location is written to.
theorem Settled.write (h : fs.Settled p content) (hr : fs.resolve p = .ok t) (hr' : fs.resolve p' = .ok t')
    (hn : t.location ≠ t'.location) (hw : fs.write p' content' = .ok fs') : fs'.Settled p content := by
  have ⟨l, x, hr₁, ha, hp⟩ := settled_iff.mp h
  obtain rfl := Except.ok.inj (hr.symm.trans hr₁)
  have ⟨_, hr₂, o⟩ := write_ok hw
  obtain rfl := Except.ok.inj (hr'.symm.trans hr₂)
  have ⟨_, _, hr₃, he⟩ := entries_of_write hw
  obtain rfl := Except.ok.inj (hr'.symm.trans hr₃)
  have hp' : Keyed.put l (.file content x) fs'.entries = fs'.entries := by rw [he, Keyed.put_put_of_put_eq hp hn]
  exact settled_iff.mpr ⟨l, x, o.toAgree.resolve hr hn, (o.allows _ hn _).trans ha, hp'⟩

-- A file that could be read is read with its new content.
theorem read_of_write (hw : fs.write p content = .ok fs') (hr : fs.resolve p = .ok t)
    (hr' : fs.resolve p' = .ok (.entry t.location (.file content' x))) (ha : fs.allows .read t.location) :
    fs'.read p' = .ok content := by
  have ⟨_, hr₁, o⟩ := write_ok hw
  obtain rfl := Except.ok.inj (hr.symm.trans hr₁)
  have ⟨_, hr₂⟩ := o.resolve hr' rfl
  have ha' : fs'.allows .read t.location := by
    rcases write_cases hw with ⟨_, _, _, _, _, rfl⟩ | ⟨_, hf, _, _⟩
    case inl => exact ha
    case inr =>
      obtain rfl := Except.ok.inj (hr.symm.trans hf)
      exact absurd ((at?_of_resolve_free hf).symm.trans (at?_of_resolve hr')) (by simp)
  simp [read, hr₂, ha']

end ModelForge.FileSystem
