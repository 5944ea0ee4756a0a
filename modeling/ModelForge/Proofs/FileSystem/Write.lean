import ModelForge.Proofs.FileSystem.Resolve

namespace ModelForge.FileSystem

-- Locations where a walk ends: there is nothing or a file.
def IsLeaf (fs : FileSystem) (l : Location) : Prop :=
  (fs.at? l = none) ∨ (∃ content x, fs.at? l = some (.file content x))

-- Two file systems that differ in one leaf at most.
structure Agree (fs fs' : FileSystem) (l : Location) : Prop where
  home   : fs'.home = fs.home
  at?    : ∀ l' ≠ l, fs'.at? l' = fs.at? l'
  allows : ∀ l' ≠ l, ∀ a, fs'.allows a l' = fs.allows a l'
  leaf   : fs.IsLeaf l
  leaf'  : fs'.IsLeaf l

-- Whether a file can be put at a location.
def writable (fs : FileSystem) (l : Location) : Except FileError Unit :=
  match fs.at? l with
  | some (.file _ _) => if fs.allows .write l then .ok () else .error .permissionDenied
  | some _ => .error .isDirectory
  | none =>
    if fs.at? l.dropLast = some .directory ∧ fs.allows .write l.dropLast then .ok ()
    else .error .permissionDenied

-- A file at a location gets a new content, or is made with it.
structure Overwrites (fs fs' : FileSystem) (l : Location) (content : Bytes) : Prop extends Agree fs fs' l where
  before  : fs.writable l = .ok ()
  after   : fs'.writable l = .ok ()
  content : ∃ x, fs'.at? l = some (.file content x)

-- The file that a path names has a content in whole, and all else is as it was.
structure OnlyFile (fs fs' : FileSystem) (p : Path) (l : Location) (content : Bytes) : Prop where
  home        : fs'.home = fs.home
  named       : ∃ t, (fs.resolve p = .ok t) ∧ (t.location = l)
  content     : ∃ x, fs'.resolve p = .ok (.entry l (.file content x))
  others      : ∀ l' ≠ l, (fs'.at? l' = fs.at? l') ∧ (∀ a, fs'.allows a l' = fs.allows a l')
  directories : ∀ l', (fs'.at? l' = some .directory) ↔ (fs.at? l' = some .directory)

variable {fs fs' : FileSystem} {l l' here : Location} {e : Entry} {t : Target} {p d : Path} {n : String}
  {steps : List String} {links : Nat} {content content' : Bytes} {a : Access}

namespace IsLeaf

theorem ne_directory (h : fs.IsLeaf l) : fs.at? l ≠ some .directory := by
  rcases h with h | ⟨_, _, h⟩ <;> simp [h]

theorem ne_link (h : fs.IsLeaf l) (target : Path) : fs.at? l ≠ some (.link target) := by
  rcases h with h | ⟨_, _, h⟩ <;> simp [h]

theorem ne_of_directory (h : fs.IsLeaf l) (hd : fs.at? l' = some .directory) : l' ≠ l :=
  fun hl => h.ne_directory (hl ▸ hd)

end IsLeaf

namespace Agree

theorem symm (h : Agree fs fs' l) : Agree fs' fs l where
  home        := h.home.symm
  at? _ hn    := h.at? _ hn |>.symm
  allows _ hn := fun a => h.allows _ hn a |>.symm
  leaf        := h.leaf'
  leaf'       := h.leaf

theorem enters (h : Agree fs fs' l) (en : fs.Enters here) : fs'.Enters here where
  directory := by rw [h.at? _ <| h.leaf.ne_of_directory en.directory, en.directory]
  allowed   := by rw [h.allows _ <| h.leaf.ne_of_directory en.directory, en.allowed]

-- A walk to another location does not pass the leaf.
theorem walks (h : Agree fs fs' l) (w : Walks fs links here steps t) (hn : t.location ≠ l) :
    Walks fs' links here steps t := by
  induction w with
  | arrive he => exact .arrive (h.at? _ hn ▸ he)
  | stay en _ hi => exact .stay (h.enters en) (hi hn)
  | up en _ hi => exact .up (h.enters en) (hi hn)
  | free en pl hf => exact .free (h.enters en) pl (h.at? _ hn ▸ hf)
  | @follow here name target links rest t en pl hl _ hi =>
    have hne : here ++ [name] ≠ l := fun hh => h.leaf.ne_link _ (hh ▸ hl)
    exact .follow (h.enters en) pl (h.at? _ hne ▸ hl) (hi hn)
  | @down here name e links rest t en pl he hk more hi =>
    by_cases hne : here ++ [name] = l
    case neg => exact .down (h.enters en) pl (h.at? _ hne ▸ he) hk (hi hn)
    case pos =>
      have hd := hne ▸ h.leaf.ne_directory
      obtain rfl := more.eq_nil hd
      cases more
      exact absurd hne hn

theorem resolve (h : Agree fs fs' l) (hr : fs.resolve p = .ok t) (hn : t.location ≠ l) :
    fs'.resolve p = .ok t := by
  have ⟨he, hz, hs, w⟩ := resolve_ok_iff.mp hr
  exact resolve_ok_iff.mpr ⟨he, hz, hs, h.home ▸ h.walks w hn⟩

theorem isDirectory (h : Agree fs fs' l) (hd : fs.isDirectory p) : fs'.isDirectory p := by
  have ⟨ld, hr⟩ := isDirectory_iff.mp hd
  exact isDirectory_iff.mpr ⟨ld, h.resolve hr <| h.leaf.ne_of_directory <| at?_of_resolve hr⟩

theorem isDirectory_eq (h : Agree fs fs' l) : fs'.isDirectory p = fs.isDirectory p :=
  Bool.eq_iff_iff.mpr ⟨h.symm.isDirectory, h.isDirectory⟩

theorem read (h : Agree fs fs' l) (hr : fs.resolve p = .ok (.entry l' e)) (hn : l' ≠ l) :
    fs'.read p = fs.read p := by
  simp only [FileSystem.read, hr, h.resolve hr hn, h.allows _ hn]

theorem linkless (h : Agree fs fs' l) (hl : fs.Linkless) : fs'.Linkless := by
  intro l' target
  by_cases hn : l' = l
  case pos => exact hn ▸ h.leaf'.ne_link target
  case neg => exact h.at? _ hn ▸ hl l' target

theorem directory_iff (h : Agree fs fs' l) : (fs'.at? l' = some .directory) ↔ (fs.at? l' = some .directory) := by
  by_cases hn : l' = l
  case pos => simp [hn, h.leaf.ne_directory, h.leaf'.ne_directory]
  case neg => rw [h.at? _ hn]

theorem locate (h : Agree fs fs' l) : fs'.locate p = fs.locate p := by
  rw [FileSystem.locate, FileSystem.locate, h.home]

-- Where a name below a directory leads does not depend on what is there.
theorem resolve_join (h : Agree fs fs' l) (hl : fs.Linkless) (hn : Path.IsName n.toList)
    (hd : fs.isDirectory d.trimmed) :
    (fs'.resolve (d.join ⟨n⟩)).map Target.location = (fs.resolve (d.join ⟨n⟩)).map Target.location := by
  have ⟨ld, hr⟩ := isDirectory_iff.mp hd
  have hld : ld = fs.locate d := locate_trimmed (d := d) ▸ hl.locate hr
  have hne := h.leaf.ne_of_directory (at?_of_resolve hr)
  rw [FileSystem.resolve_join hl hn hd, FileSystem.resolve_join (h.linkless hl) hn (h.isDirectory hd), h.locate,
    h.allows _ (hld ▸ hne)]
  repeat' split
  all_goals simp [Except.map]

end Agree

namespace Overwrites

-- A walk to the location finds the new content.
theorem walks (h : Overwrites fs fs' l content) (w : Walks fs links here steps t) (hl : t.location = l) :
    ∃ x, Walks fs' links here steps (.entry l (.file content x)) := by
  have ⟨x, hc⟩ := h.content
  refine ⟨x, ?_⟩
  induction w with
  | arrive =>
    obtain rfl : _ = l := hl
    exact .arrive hc
  | stay en _ hi => exact .stay (h.enters en) (hi hl)
  | up en _ hi => exact .up (h.enters en) (hi hl)
  | free en pl =>
    obtain rfl : _ ++ [_] = l := hl
    exact .down (h.enters en) pl hc (by simp) (.arrive hc)
  | @follow here name target links rest t en pl hk _ hi =>
    have hne : here ++ [name] ≠ l := fun hh => h.leaf.ne_link _ (hh ▸ hk)
    exact .follow (h.enters en) pl (h.at? _ hne ▸ hk) (hi hl)
  | @down here name e links rest t en pl he hk more hi =>
    by_cases hne : here ++ [name] = l
    case neg => exact .down (h.enters en) pl (h.at? _ hne ▸ he) hk (hi hl)
    case pos =>
      obtain rfl := hne
      obtain rfl := more.eq_nil h.leaf.ne_directory
      exact .down (h.enters en) pl hc (by simp) (.arrive hc)

theorem resolve (h : Overwrites fs fs' l content) (hr : fs.resolve p = .ok t) (hl : t.location = l) :
    ∃ x, fs'.resolve p = .ok (.entry l (.file content x)) := by
  have ⟨he, hz, hs, w⟩ := resolve_ok_iff.mp hr
  have ⟨x, w'⟩ := h.walks w hl
  exact ⟨x, resolve_ok_iff.mpr ⟨he, hz, hs, h.home ▸ w'⟩⟩

-- What was writable before is writable after, and nothing else.
theorem writable_eq (h : Overwrites fs fs' l content) : fs'.writable = fs.writable := by
  funext l'
  by_cases hn : l' = l
  case pos => rw [hn, h.after, h.before]
  case neg =>
    simp only [writable, h.at? _ hn, h.allows _ hn]
    by_cases hp : l'.dropLast = l
    case neg => rw [h.at? _ hp, h.allows _ hp]
    case pos => simp [hp, h.leaf.ne_directory, h.leaf'.ne_directory]

theorem overwrite (ha : fs.at? l = some (.file content' x)) (hw : fs.allows .write l) :
    Overwrites fs (fs.overwrite l content x) l content := by
  have hn : l ≠ [] := fun hl => by simp [hl] at ha
  have ha' : (fs.overwrite l content x).at? l = some (.file content x) := at?_set_self hn
  constructor
  · exact { home := rfl, at? := fun _ => at?_set_of_ne, allows := fun _ _ _ => rfl,
            leaf := .inr ⟨_, _, ha⟩, leaf' := .inr ⟨_, _, ha'⟩ }
  · simp [writable, ha, hw]
  · have hw' : (fs.overwrite l content x).allows .write l := hw
    simp [writable, ha', hw']
  · exact ⟨x, ha'⟩

theorem create (ha : fs.at? l = none) (hd : fs.at? l.dropLast = some .directory)
    (hw : fs.allows .write l.dropLast) : Overwrites fs (fs.create l content) l content := by
  have hn : l ≠ [] := fun hl => by simp [hl] at ha
  have ha' : (fs.create l content).at? l = some (.file content false) := at?_set_self hn
  constructor
  · refine { home := rfl, at? := fun _ => at?_set_of_ne, allows := ?_,
             leaf := .inl ha, leaf' := .inr ⟨_, _, ha'⟩ }
    intro l' hn a
    simp [FileSystem.allows, FileSystem.create, hn]
  · simp [writable, ha, hd, hw]
  · have hw' : (fs.create l content).allows .write l := by simp [FileSystem.allows, FileSystem.create]
    simp [writable, ha', hw']
  · exact ⟨false, ha'⟩

end Overwrites

theorem Walks.parent_directory (w : Walks fs links here steps (.free l)) : fs.at? l.dropLast = some .directory := by
  generalize ht : Target.free l = t at w
  induction w with
  | arrive => contradiction
  | free en => cases ht; simpa using en.directory
  | stay _ _ hi | up _ _ hi | follow _ _ _ _ hi | down _ _ _ _ _ hi => exact hi ht

theorem parent_of_resolve (h : fs.resolve p = .ok (.free l)) : fs.at? l.dropLast = some .directory :=
  (resolve_ok_iff.mp h).right.right.right.parent_directory

-- What comes of a write: where the path leads decides.
theorem write_map : (fs.write p content).map (fun _ => ()) =
    ((fs.resolve p).map Target.location).bind fs.writable := by
  rcases h : fs.resolve p with _ | ⟨l, _ | _ | _⟩ | l
  case error => simp [write, h, Except.map, Except.bind]
  case ok.entry.directory | ok.entry.link =>
    have ha := at?_of_resolve h
    simp [write, writable, h, Except.map, Except.bind, Target.location, ha]
  case ok.entry.file =>
    have ha := at?_of_resolve h
    by_cases hw : fs.allows .write l <;>
      simp [write, writable, h, Except.map, Except.bind, Target.location, ha, hw]
  case ok.free =>
    have ha := at?_of_resolve_free h
    have hp := parent_of_resolve h
    by_cases hw : fs.allows .write l.dropLast <;>
      simp [write, writable, h, Except.map, Except.bind, Target.location, ha, hp, hw]

theorem write_ok (h : fs.write p content = .ok fs') :
    ∃ t, (fs.resolve p = .ok t) ∧ (Overwrites fs fs' t.location content) := by
  rw [write] at h
  split at h <;> try contradiction
  case h_1 hr =>
    split at h <;> try contradiction
    case isFalse hw =>
      cases h
      exact ⟨_, hr, .overwrite (at?_of_resolve hr) (by simpa using hw)⟩
  case h_3 hr =>
    split at h <;> try contradiction
    case isFalse hw =>
      cases h
      exact ⟨_, hr, .create (at?_of_resolve_free hr) (parent_of_resolve hr) (by simpa using hw)⟩

theorem write_onlyFile (h : fs.write p content = .ok fs') : ∃ l, OnlyFile fs fs' p l content := by
  have ⟨t, hr, o⟩ := write_ok h
  exact ⟨t.location, {
    home        := o.home
    named       := ⟨t, hr, rfl⟩
    content     := o.resolve hr rfl
    others      := fun l' hn => ⟨o.at? l' hn, o.allows l' hn⟩
    directories := fun _ => o.directory_iff }⟩

end ModelForge.FileSystem
