import Mathlib.Data.List.Lex
import ModelForge.Proofs.Path
import ModelForge.Proofs.Text.Utf8

namespace ModelForge.Path

-- What the order of paths compares, one after the other: the root or a first `.`, then the steps.
inductive Component
  | root
  | here
  | up
  | name (bytes : Bytes)
  deriving DecidableEq

namespace Component

def rank : Component → Nat
  | root => 0
  | here => 1
  | up => 2
  | name _ => 3

-- Names are compared by their bytes.
inductive Before : Component → Component → Prop
  | rank (h : a.rank < b.rank) : Before a b
  | name (h : m < n) : Before (.name m) (.name n)

def ofStep (s : List Char) : Component := if s = ['.', '.'] then up else name (Text.Utf8.encode s)

instance : Std.Irrefl Before where
  irrefl
    | _, .rank h => Nat.lt_irrefl _ h
    | _, .name h => List.lt_irrefl _ h

theorem name_before_iff {m n : Bytes} : Before (.name m) (.name n) ↔ m < n := by
  constructor
  · intro
    | .rank h => exact absurd h (Nat.lt_irrefl _)
    | .name h => exact h
  · exact .name

end Component

def leadingComponents (p : Path) : List Component :=
  if p.leading = ['/'] then [.root] else if p.leading = ['.'] then [.here] else []

def components (p : Path) : List Component := p.leadingComponents ++ p.steps.map .ofStep

-- The order of paths.
def Before (p q : Path) : Prop := List.Lex Component.Before p.components q.components

variable {p d : Path} {n m : String} {parts : List (List Char)}

theorem components_join (h : IsName n.toList) :
    (d.join ⟨n⟩).components = d.components ++ [.name (Text.Utf8.encode n.toList)] := by
  obtain ⟨hl, _⟩ := segments_join (d := d) h
  simp [components, leadingComponents, hl, steps_join h, Component.ofStep, h.ne_dots]

-- Of two paths right below one directory, the bytes of the names decide.
theorem join_before_iff (hn : IsName n.toList) (hm : IsName m.toList) :
    (d.join ⟨n⟩).Before (d.join ⟨m⟩) ↔ Text.Utf8.encode n.toList < Text.Utf8.encode m.toList := by
  rw [Before, components_join hn, components_join hm]
  induction d.components with
  | nil => rw [List.nil_append, List.nil_append, List.lex_singleton_iff, Component.name_before_iff]
  | cons c rest hi => rw [List.cons_append, List.cons_append, List.lex_cons_iff, hi]

section Leading

-- The leading part shows in the first of the parts between slashes.
theorem leading_eq (p : Path) : p.leading =
    match splitSlashes p.text.toList with
    | ['.'] :: _ => ['.']
    | [] :: _ :: _ => ['/']
    | _ => [] := by
  rcases h : p.text.toList with - | ⟨c, - | ⟨d, rest⟩⟩
  case nil => simp [leading, h, splitSlashes]
  case cons.nil =>
    by_cases hs : c = '/'
    case pos => simp [leading, leadingLength, h, splitSlashes, hs]
    case neg => by_cases hd : c = '.' <;> simp [leading, leadingLength, h, splitSlashes, hs, hd]
  case cons.cons =>
    obtain ⟨part, more, hp⟩ := List.exists_cons_of_ne_nil (splitSlashes_ne_nil rest)
    by_cases hs : c = '/'
    case pos => by_cases hd : d = '/' <;> simp [leading, leadingLength, h, splitSlashes, hs, hd, hp]
    case neg =>
      by_cases hd : c = '.' <;> by_cases hn : d = '/' <;>
        simp [leading, leadingLength, h, splitSlashes, hs, hd, hn, hp]

-- Nothing in front, and the text does not begin with a slash: so the first part names something.
theorem exists_cons_of_leading (h : p.leading = []) (ht : p.text.toList.head? ≠ some '/') (hn : p.text ≠ "") :
    ∃ part more, (splitSlashes p.text.toList = part :: more) ∧ isIdle part = false := by
  have ⟨part, more, hp⟩ := List.exists_cons_of_ne_nil (splitSlashes_ne_nil p.text.toList)
  refine ⟨part, more, hp, ?_⟩
  rw [leading_eq, hp] at h
  rcases hl : p.text.toList with - | ⟨c, rest⟩
  case nil => exact absurd (String.toList_eq_nil_iff.mp hl) hn
  case cons =>
    have ⟨part', more', hp'⟩ := List.exists_cons_of_ne_nil (splitSlashes_ne_nil rest)
    have hc : c ≠ '/' := by simpa [hl] using ht
    simp only [hl, splitSlashes, hc, hp', if_false, List.cons.injEq] at hp
    obtain ⟨rfl, rfl⟩ := hp
    by_cases hd : c :: part' = ['.']
    case pos => simp [hd] at h
    case neg => simp [isIdle, hd]

theorem leading_upTo (h : parts <+: p.segments) : (p.upTo parts).leading = p.leading := by
  have hn := no_slash_of_beginning h
  rw [leading_eq, toList_upTo]
  cases beginning p
  case root hl _ =>
    obtain ⟨part, more, hp⟩ := List.exists_cons_of_ne_nil (splitSlashes_ne_nil (joinSlashes parts))
    simp [hl, splitSlashes, hp]
  case dot hl _ hg =>
    obtain ⟨more, hg⟩ := hg
    rw [hg] at h
    rcases parts with - | ⟨part, - | ⟨next, parts⟩⟩
    case nil => simp [hl, joinSlashes, splitSlashes]
    case cons.nil =>
      obtain rfl : part = [] := by simpa using h
      simp [hl, joinSlashes, splitSlashes]
    case cons.cons =>
      obtain rfl : part = [] := by simpa using (List.cons_prefix_cons.mp h).left
      simp [hl, joinSlashes, splitSlashes]
  case none hl ht hg =>
    cases parts
    case nil => simp [hl, joinSlashes, splitSlashes]
    case cons part parts =>
      obtain ⟨rest, hr⟩ := h
      have he := leading_eq p
      rw [hl, ← hg, ← hr, List.cons_append] at he
      rw [hl, List.nil_append, splitSlashes_joinSlashes (by simp) hn]
      split
      case h_1 he' =>
        obtain ⟨rfl, rfl⟩ := List.cons_eq_cons.mp he'
        simp at he
      case h_2 he' =>
        obtain ⟨rfl, rfl⟩ := List.cons_eq_cons.mp he'
        simp at he
      case h_3 => rfl

-- A path is the same one without the idle segments at its end.
theorem components_trimmed : p.trimmed.components = p.components := by
  rw [components, components, leadingComponents, leadingComponents, steps_trimmed]
  have hl : p.trimmed.leading = p.leading := leading_upTo (trimIdle_begins _)
  rw [hl]

theorem components_ne_nil (h : p.text ≠ "") : p.components ≠ [] := by
  cases beginning p
  case root hl _ | dot hl _ _ => simp [components, leadingComponents, hl]
  case none hl ht hg =>
    obtain ⟨part, more, hp, hi⟩ := exists_cons_of_leading hl ht h
    simp [components, steps, hg, hp, hi]

theorem trimmed_ne_empty (h : p.text ≠ "") : p.trimmed.text ≠ "" := by
  intro ht
  have he : p.trimmed = ⟨""⟩ := congrArg Path.mk ht
  have hc : p.components = [] := by
    rw [← components_trimmed, he]
    rfl
  exact components_ne_nil h hc

end Leading

end ModelForge.Path
