import ModelForge.FileSystem.Setup
import ModelForge.Proofs.Path

namespace ModelForge

def Target.location : Target → Location
  | entry l _ | free l => l

namespace FileSystem

-- What a path leads to, once its location is known.
def targetAt (fs : FileSystem) (l : Location) : Target :=
  match fs.at? l with
  | some e => .entry l e
  | none => .free l

-- Directories that a walk can go on from.
structure Enters (fs : FileSystem) (l : Location) : Prop where
  directory : fs.at? l = some .directory
  allowed   : fs.allows .search l

-- Names that a walk looks for where it is.
structure IsPlainStep (name : String) : Prop where
  ne_dot  : name ≠ "."
  ne_dots : name ≠ ".."
  fits    : ¬name.utf8ByteSize > nameLimit

-- How a walk comes to what it leads to.
inductive Walks (fs : FileSystem) : Nat → Location → List String → Target → Prop
  | arrive (entry : fs.at? here = some e) : Walks fs links here [] (.entry here e)
  | stay (enters : fs.Enters here) (more : Walks fs links here rest t) :
    Walks fs links here ("." :: rest) t
  | up (enters : fs.Enters here) (more : Walks fs links here.dropLast rest t) :
    Walks fs links here (".." :: rest) t
  | free (enters : fs.Enters here) (plain : IsPlainStep name) (free : fs.at? (here ++ [name]) = none) :
    Walks fs links here [name] (.free <| here ++ [name])
  | follow (enters : fs.Enters here) (plain : IsPlainStep name)
    (link : fs.at? (here ++ [name]) = some (.link target))
    (more : Walks fs links (startOf target here) (walkSteps target ++ rest) t) :
    Walks fs (links + 1) here (name :: rest) t
  | down (enters : fs.Enters here) (plain : IsPlainStep name) (entry : fs.at? (here ++ [name]) = some e)
    (no_link : ∀ target, e ≠ .link target) (more : Walks fs links (here ++ [name]) rest t) :
    Walks fs links here (name :: rest) t

variable {fs fs' : FileSystem} {l l' here : Location} {e : Entry} {name : String} {steps rest : List String}
  {links : Nat} {t : Target} {p : Path}

@[simp]
theorem at?_nil : fs.at? [] = some .directory := by
  simp [at?]

@[simp]
theorem at?_set_self (h : l ≠ []) : (fs.set l e).at? l = some e := by
  simp [at?, set, h]

theorem at?_set_of_ne (h : l' ≠ l) : (fs.set l e).at? l' = fs.at? l' := by
  simp only [at?, set]
  split
  · rfl
  · exact Keyed.find?_put_of_ne h _ _

@[simp]
theorem location_targetAt : (fs.targetAt l).location = l := by
  rw [targetAt]
  cases fs.at? l <;> rfl

theorem walk_cons (h : fs.at? here = some .directory) : fs.walk links here (name :: rest) =
    if !fs.allows .search here then .error .permissionDenied
    else if name = "." then fs.walk links here rest
    else if name = ".." then fs.walk links here.dropLast rest
    else if name.utf8ByteSize > nameLimit then .error .nameTooLong
    else
      match fs.at? (here ++ [name]) with
      | none => if rest = [] then .ok (.free (here ++ [name])) else .error .notFound
      | some (.link target) =>
        match links with
        | 0 => .error .tooManyLinks
        | links + 1 => fs.walk links (startOf target here) (walkSteps target ++ rest)
      | some _ => fs.walk links (here ++ [name]) rest := by
  have hw := walk.eq_def fs links here (name :: rest)
  rw [h] at hw
  exact hw

theorem walk_cons_of_ne (h : fs.at? here ≠ some .directory) : fs.walk links here (name :: rest) =
    .error (if fs.at? here = none then .notFound else .notDirectory) := by
  rw [walk.eq_def]
  rcases he : fs.at? here with - | _ | _ | _ <;> simp_all

namespace Enters

theorem walk_dot (en : fs.Enters here) : fs.walk links here ("." :: rest) = fs.walk links here rest := by
  rw [walk_cons en.directory]
  simp [en.allowed]

theorem walk_dots (en : fs.Enters here) : fs.walk links here (".." :: rest) = fs.walk links here.dropLast rest := by
  rw [walk_cons en.directory]
  simp [en.allowed]

theorem walk_name (en : fs.Enters here) (pl : IsPlainStep name) : fs.walk links here (name :: rest) =
    match fs.at? (here ++ [name]) with
    | none => if rest = [] then .ok (.free (here ++ [name])) else .error .notFound
    | some (.link target) =>
      match links with
      | 0 => .error .tooManyLinks
      | links + 1 => fs.walk links (startOf target here) (walkSteps target ++ rest)
    | some _ => fs.walk links (here ++ [name]) rest := by
  rw [walk_cons en.directory]
  simp only [en.allowed, pl.ne_dot, pl.ne_dots, pl.fits, Bool.not_true, Bool.false_eq_true, if_false]

theorem walk_down (en : fs.Enters here) (pl : IsPlainStep name) (he : fs.at? (here ++ [name]) = some e)
    (hn : ∀ target, e ≠ .link target) : fs.walk links here (name :: rest) = fs.walk links (here ++ [name]) rest := by
  rw [en.walk_name pl, he]
  cases e with
  | link target => exact absurd rfl (hn target)
  | _ => rfl

end Enters

namespace Walks

theorem of_walk (h : fs.walk links here steps = .ok t) : Walks fs links here steps t := by
  fun_induction walk
  case case2 hh => exact (Except.ok.inj h) ▸ .arrive hh
  case case4 hh ha hi => exact .stay ⟨hh, by simpa using ha⟩ (hi h)
  case case5 hh ha _ hi => exact .up ⟨hh, by simpa using ha⟩ (hi h)
  case case7 hh ha hd hu hf hn => exact (Except.ok.inj h) ▸ .free ⟨hh, by simpa using ha⟩ ⟨hd, hu, hf⟩ hn
  case case10 hh ha hd hu hf _ hl _ hi => exact .follow ⟨hh, by simpa using ha⟩ ⟨hd, hu, hf⟩ hl (hi h)
  case case11 hh ha hd hu hf _ hn he hi =>
    exact .down ⟨hh, by simpa using ha⟩ ⟨hd, hu, hf⟩ he (fun target ht => hn target ht) (hi h)
  all_goals contradiction

theorem walk (w : Walks fs links here steps t) : fs.walk links here steps = .ok t := by
  induction w with
  | arrive he => simp [FileSystem.walk, he]
  | stay en _ hi => rw [en.walk_dot, hi]
  | up en _ hi => rw [en.walk_dots, hi]
  | free en pl hf => rw [en.walk_name pl, hf, if_pos rfl]
  | follow en pl hl _ hi => simp only [en.walk_name pl, hl, hi]
  | down en pl he hn _ hi => rw [en.walk_down pl he hn, hi]

-- A walk stands still at a file and where nothing is.
theorem eq_nil (w : Walks fs links here steps t) (h : fs.at? here ≠ some .directory) : steps = [] := by
  cases w with
  | arrive => rfl
  | stay en | up en | free en | follow en | down en => exact absurd en.directory h

theorem target (w : Walks fs links here steps t) : t = fs.targetAt t.location := by
  induction w with
  | arrive h | free _ _ h => simp [targetAt, Target.location, h]
  | stay _ _ hi | up _ _ hi | follow _ _ _ _ hi | down _ _ _ _ _ hi => exact hi

end Walks

theorem walk_ok_iff : (fs.walk links here steps = .ok t) ↔ Walks fs links here steps t :=
  ⟨.of_walk, Walks.walk⟩

-- A file system without symbolic links.
def Linkless (fs : FileSystem) : Prop :=
  ∀ l target, fs.at? l ≠ some (.link target)

section Linkless

theorem walk_dot (h : rest ≠ []) : fs.walk links here ("." :: rest) = fs.walk links here rest := by
  have ⟨name, more, hr⟩ := List.exists_cons_of_ne_nil h
  by_cases hh : fs.at? here = some .directory
  case pos =>
    by_cases ha : fs.allows .search here
    case pos => rw [walk_cons hh]; simp [ha]
    case neg => rw [hr, walk_cons hh, walk_cons hh]; simp [ha]
  case neg => rw [hr, walk_cons_of_ne hh, walk_cons_of_ne hh]

theorem walk_name (hl : fs.Linkless) (hh : fs.at? here = some .directory) (hn : Path.IsName name.toList) :
    fs.walk links here [name] =
      if !fs.allows .search here then .error .permissionDenied
      else if name.utf8ByteSize > nameLimit then .error .nameTooLong
      else .ok (fs.targetAt (here ++ [name])) := by
  simp only [walk_cons hh, hn.text_ne_dot, hn.text_ne_dots, if_false, targetAt]
  split <;> try rfl
  split <;> try rfl
  rcases he : fs.at? (here ++ [name]) with - | _ | _ | _
  case none => rfl
  case some.link => exact absurd he (hl _ _)
  all_goals simp [walk, he]

variable {a b : List String}

-- What follows a step decides the walk only where the walk goes on.
theorem walk_congr (hl : fs.Linkless) (ha : a ≠ []) (hb : b ≠ [])
    (h : ∀ here, fs.walk links here a = fs.walk links here b) :
    fs.walk links here (name :: a) = fs.walk links here (name :: b) := by
  by_cases hh : fs.at? here = some .directory
  case pos =>
    rcases he : fs.at? (here ++ [name]) with - | _ | _ | _
    case some.link => exact absurd he (hl _ _)
    all_goals simp only [walk_cons hh, he, h, ha, hb]
  case neg => rw [walk_cons_of_ne hh, walk_cons_of_ne hh]

-- Idle steps do not matter as long as there is a name to come.
theorem walk_filter (hl : fs.Linkless) : (s : List String) → (here : Location) →
    fs.walk links here (s ++ [name]) = fs.walk links here (s.filter (· ≠ ".") ++ [name])
  | [], _ => rfl
  | step :: s, here => by
    by_cases hd : step = "."
    case pos => simpa [hd, walk_dot] using walk_filter hl s here
    case neg => simpa [hd] using walk_congr hl (by simp) (by simp) fun here => by simpa using walk_filter hl s here

theorem Walks.append (hl : fs.Linkless) (w : Walks fs links here a (.entry l .directory)) :
    fs.walk links here (a ++ b) = fs.walk links l b := by
  generalize ht : Target.entry l .directory = t at w
  induction w with
  | arrive he => simp_all
  | free => contradiction
  | follow _ _ h => exact absurd h (hl _ _)
  | stay en _ hi => rw [List.cons_append, en.walk_dot, hi ht]
  | up en _ hi => rw [List.cons_append, en.walk_dots, hi ht]
  | down en pl he hn _ hi => rw [List.cons_append, en.walk_down pl he hn, hi ht]

theorem Walks.location (hl : fs.Linkless) (w : Walks fs links here steps t) :
    t.location = steps.foldl descend here := by
  induction w with
  | arrive => rfl
  | free _ pl => simp [Target.location, descend, pl.ne_dot, pl.ne_dots]
  | follow _ _ h => exact absurd h (hl _ _)
  | stay _ _ hi => simpa [descend] using hi
  | up _ _ hi => simpa [descend] using hi
  | down _ pl _ _ _ hi => simpa [descend, pl.ne_dot, pl.ne_dots] using hi

end Linkless

end FileSystem

end ModelForge
