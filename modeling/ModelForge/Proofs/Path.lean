import Mathlib.Data.List.TakeWhile
import ModelForge.Output

namespace ModelForge.Path

theorem splitSlashes_ne_nil : (s : List Char) → splitSlashes s ≠ []
  | [] => by simp [splitSlashes]
  | c :: s => by
    simp only [splitSlashes]
    split
    · simp
    · split <;> simp

theorem splitSlashes_append (s t : List Char) :
    splitSlashes (s ++ '/' :: t) = splitSlashes s ++ splitSlashes t := by
  induction s with
  | nil => simp [splitSlashes]
  | cons c s hi =>
    simp only [List.cons_append, splitSlashes, hi]
    cases h : splitSlashes s with
    | nil => exact absurd h (splitSlashes_ne_nil s)
    | cons => by_cases hc : c = '/' <;> simp [hc]

theorem splitSlashes_of_no_slash {s : List Char} (h : '/' ∉ s) : splitSlashes s = [s] := by
  induction s with
  | nil => rfl
  | cons c s hi =>
    simp only [List.mem_cons, not_or] at h
    simp [splitSlashes, hi h.right, Ne.symm h.left]

theorem no_slash_of_mem_splitSlashes {s part : List Char} (h : part ∈ splitSlashes s) : '/' ∉ part := by
  induction s generalizing part with
  | nil => simp_all [splitSlashes]
  | cons c s hi =>
    simp only [splitSlashes] at h
    split at h
    · cases h
      case head => simp
      case tail h => exact hi h
    case isFalse hc =>
      cases hs : splitSlashes s with
      | nil => exact absurd hs (splitSlashes_ne_nil s)
      | cons first more =>
        simp only [hs, List.mem_cons] at h
        cases h
        case inl h => simp [h, Ne.symm hc, hi <| hs ▸ List.mem_cons_self]
        case inr h => exact hi (by simp [hs, h])

theorem splitSlashes_joinSlashes : {p : List (List Char)} → (p ≠ []) →
    (∀ part ∈ p, '/' ∉ part) → splitSlashes (joinSlashes p) = p
  | [part], _, h => splitSlashes_of_no_slash (h part (by simp))
  | part :: next :: more, _, h => by
    have hp := splitSlashes_of_no_slash (h part (by simp))
    have hi := splitSlashes_joinSlashes (p := next :: more) (by simp) (by simp_all)
    rw [joinSlashes, splitSlashes_append, hp, hi, List.singleton_append]

-- The steps of a path can be read off its whole text: the leading part names nothing.
theorem steps_eq (p : Path) : p.steps = (splitSlashes p.text.toList).filter (!isIdle ·) := by
  simp only [steps, segments, leadingLength]
  split <;> simp_all [splitSlashes, isIdle]

theorem steps_joinSlashes {parts : List (List Char)} (h : ∀ part ∈ parts, '/' ∉ part) :
    (splitSlashes (joinSlashes parts)).filter (!isIdle ·) = parts.filter (!isIdle ·) := by
  cases parts with
  | nil => simp [joinSlashes, splitSlashes, isIdle]
  | cons => rw [splitSlashes_joinSlashes (by simp) h]

-- Names that an entry of a directory can have.
structure IsName (n : List Char) : Prop where
  ne_nil   : n ≠ []
  ne_dot   : n ≠ ['.']
  ne_dots  : n ≠ ['.', '.']
  no_slash : '/' ∉ n

namespace IsName

variable {n : List Char}

instance : Decidable (IsName n) :=
  decidable_of_iff ((n ≠ []) ∧ (n ≠ ['.']) ∧ (n ≠ ['.', '.']) ∧ ('/' ∉ n))
    ⟨fun ⟨h₁, h₂, h₃, h₄⟩ => ⟨h₁, h₂, h₃, h₄⟩, fun ⟨h₁, h₂, h₃, h₄⟩ => ⟨h₁, h₂, h₃, h₄⟩⟩

theorem not_idle (h : IsName n) : isIdle n = false := by
  simp [isIdle, h.ne_nil, h.ne_dot]

theorem head_ne_slash (h : IsName n) : n.head? ≠ some '/' :=
  fun hs => h.no_slash (List.mem_of_head? hs)

theorem text_ne_dot {n : String} (h : IsName n.toList) : n ≠ "." :=
  fun hn => h.ne_dot (by simp [hn])

theorem text_ne_dots {n : String} (h : IsName n.toList) : n ≠ ".." :=
  fun hn => h.ne_dots (by simp [hn])

end IsName

section Join

variable {d : Path} {n : String}

-- A name below a directory: the directory's text, a slash unless there is one or the text is empty,
-- and the name.
theorem toList_join (h : IsName n.toList) :
    (d.join ⟨n⟩).text.toList = d.text.toList ++
      (if d.text.toList = [] ∨ d.text.toList.getLast? = some '/' then [] else ['/']) ++ n.toList := by
  have hn : isAbsolute ⟨n⟩ = false := by simp [isAbsolute, h.head_ne_slash]
  by_cases he : d.text.toList = [] ∨ d.text.toList.getLast? = some '/' <;>
    simp_all [join, String.isEmpty_iff, ← String.toList_eq_nil_iff]

-- The parts of the text before the name, whose idle ones do not matter.
theorem splitSlashes_join (h : IsName n.toList) : ∃ parts, splitSlashes (d.join ⟨n⟩).text.toList =
    parts ++ [n.toList] ∧ parts.filter (!isIdle ·) = (splitSlashes d.text.toList).filter (!isIdle ·) := by
  rw [toList_join h]
  split
  case isTrue he =>
    cases he
    case inl he => exact ⟨[], by simp [he, splitSlashes_of_no_slash h.no_slash, splitSlashes, isIdle]⟩
    case inr he =>
      obtain ⟨front, hf⟩ := List.getLast?_eq_some_iff.mp he
      refine ⟨splitSlashes front, ?_, ?_⟩
      · simp [hf, splitSlashes_append, splitSlashes_of_no_slash h.no_slash]
      · simp [hf, splitSlashes_append, splitSlashes, isIdle]
  case isFalse =>
    exact ⟨_, by simp [splitSlashes_append, splitSlashes_of_no_slash h.no_slash], rfl⟩

theorem steps_join (h : IsName n.toList) : (d.join ⟨n⟩).steps = d.steps ++ [n.toList] := by
  obtain ⟨parts, hs, hp⟩ := splitSlashes_join (d := d) h
  simp [steps_eq, hs, hp, h.not_idle]

theorem fileName?_join (h : IsName n.toList) : (d.join ⟨n⟩).fileName? = some n.toList := by
  simp [fileName?, steps_join h, h.ne_dots]

theorem isAbsolute_join (h : IsName n.toList) : (d.join ⟨n⟩).isAbsolute = d.isAbsolute := by
  have hn := h.head_ne_slash
  rw [isAbsolute, isAbsolute, toList_join h]
  cases hd : d.text.toList <;> simp_all

end Join

-- The text of a path without the idle segments at its end.
def trimmed (p : Path) : Path := ⟨String.ofList (p.leading ++ joinSlashes (trimIdle p.segments))⟩

section Trimmed

@[simp]
theorem isIdle_nil : isIdle [] = true := rfl

@[simp]
theorem isIdle_dot : isIdle ['.'] = true := rfl

theorem trimIdle_append_idle {segs idle : List (List Char)} (h : ∀ s ∈ idle, isIdle s = true) :
    trimIdle (segs ++ idle) = trimIdle segs := by
  have hi : idle.reverse.dropWhile isIdle = [] := List.dropWhile_eq_nil_iff.mpr (by simpa using h)
  simp [trimIdle, List.dropWhile_append, hi]

theorem trimIdle_append_of_not_idle {segs : List (List Char)} {s : List Char} (h : isIdle s = false) :
    trimIdle (segs ++ [s]) = segs ++ [s] := by
  simp [trimIdle, h]

theorem eq_trimIdle_append (segs : List (List Char)) :
    ∃ idle, segs = trimIdle segs ++ idle ∧ ∀ s ∈ idle, isIdle s = true := by
  refine ⟨(segs.reverse.takeWhile isIdle).reverse, ?_, ?_⟩
  · rw [trimIdle, ← List.reverse_append, List.takeWhile_append_dropWhile, List.reverse_reverse]
  · intro s hs
    exact List.mem_takeWhile_imp (List.mem_reverse.mp hs)

theorem filter_trimIdle (segs : List (List Char)) :
    (trimIdle segs).filter (!isIdle ·) = segs.filter (!isIdle ·) := by
  obtain ⟨idle, hs, hi⟩ := eq_trimIdle_append segs
  have hf : idle.filter (!isIdle ·) = [] := by simpa using hi
  conv => rhs; rw [hs, List.filter_append, hf, List.append_nil]

variable (p : Path)

-- How a text begins, and what that leaves for the segments.
inductive Beginning (p : Path) : Prop
  | root (leading : p.leading = ['/']) (text : p.text.toList.head? = some '/')
  | dot (leading : p.leading = ['.']) (text : p.text.toList.head? = some '.')
      (segments : ∃ more, p.segments = [] :: more)
  | none (leading : p.leading = []) (text : p.text.toList.head? ≠ some '/')
      (segments : p.segments = splitSlashes p.text.toList)

theorem beginning : Beginning p := by
  rcases h : p.text.toList with - | ⟨c, rest⟩
  case nil => exact .none (by simp [leading, h]) (by simp [h]) (by simp [segments, leadingLength, h])
  by_cases hs : c = '/'
  case pos => exact .root (by simp [leading, leadingLength, h, hs]) (by simp [h, hs])
  by_cases hd : c = '.' ∧ (rest = [] ∨ rest.head? = some '/')
  case pos =>
    obtain ⟨rfl, hr⟩ := hd
    rcases rest with - | ⟨d, rest⟩ <;>
      simp_all [Beginning.dot, leading, segments, leadingLength, splitSlashes]
  case neg =>
    have hl : p.leadingLength = 0 := by
      simp only [leadingLength, h]
      split <;> simp_all
    exact .none (by simp [leading, hl]) (by simp [h, hs]) (by simp [segments, hl, h])

theorem steps_dot_joinSlashes : {parts : List (List Char)} → (parts = [] ∨ ∃ more, parts = [] :: more) →
    (∀ part ∈ parts, '/' ∉ part) →
    (splitSlashes ('.' :: joinSlashes parts)).filter (!isIdle ·) = parts.filter (!isIdle ·)
  | [], _, _ | [[]], _, _ => rfl
  | [] :: part :: more, _, h => by
    have hs := splitSlashes_joinSlashes (p := part :: more) (by simp) (by simp_all)
    simp [joinSlashes, hs, splitSlashes]

-- A beginning of a path, up to some of its segments.
def upTo (p : Path) (parts : List (List Char)) : Path := ⟨String.ofList (p.leading ++ joinSlashes parts)⟩

variable {p} {parts : List (List Char)}

theorem toList_upTo : (p.upTo parts).text.toList = p.leading ++ joinSlashes parts := by
  simp [upTo]

theorem no_slash_of_beginning (h : parts <+: p.segments) : ∀ s ∈ parts, '/' ∉ s :=
  fun _ hs => no_slash_of_mem_splitSlashes (h.subset hs)

theorem steps_upTo (h : parts <+: p.segments) : (p.upTo parts).steps = parts.filter (!isIdle ·) := by
  have hn := no_slash_of_beginning h
  rw [steps_eq, toList_upTo]
  cases beginning p
  case root hl _ => simpa [hl, splitSlashes] using steps_joinSlashes hn
  case none hl _ _ => simpa [hl] using steps_joinSlashes hn
  case dot hl _ hg =>
    obtain ⟨more, hg⟩ := hg
    have hp : parts = [] ∨ ∃ more, parts = [] :: more := by
      rcases List.prefix_cons_iff.mp (hg ▸ h) with hp | ⟨more, hp, _⟩
      case inl => exact .inl hp
      case inr => exact .inr ⟨more, hp⟩
    simpa [hl] using steps_dot_joinSlashes hp hn

theorem trimIdle_begins (segs : List (List Char)) : trimIdle segs <+: segs := by
  obtain ⟨idle, hs, _⟩ := eq_trimIdle_append segs
  exact ⟨idle, hs.symm⟩

theorem steps_trimmed : p.trimmed.steps = p.steps := by
  have ht : p.trimmed = p.upTo (trimIdle p.segments) := rfl
  rw [ht, steps_upTo (trimIdle_begins _), filter_trimIdle, steps]

theorem head?_of_splitSlashes_cons_cons {s : List Char} {part : List Char} {more : List (List Char)}
    (h : splitSlashes s = [] :: part :: more) : s.head? = some '/' := by
  cases s with
  | nil => simp [splitSlashes] at h
  | cons c s =>
    simp only [splitSlashes] at h
    split at h
    case isTrue hc => simp [hc]
    case isFalse => cases hs : splitSlashes s <;> simp [hs] at h

theorem head?_joinSlashes : {parts : List (List Char)} → (∀ part ∈ parts, '/' ∉ part) →
    ((joinSlashes parts).head? = some '/') → ∃ part more, parts = [] :: part :: more
  | [], _, h => by simp [joinSlashes] at h
  | [part], hn, h => absurd (List.mem_of_head? h) (hn part (by simp))
  | [] :: part :: more, _, _ => ⟨part, more, rfl⟩
  | (c :: part) :: next :: more, hn, h => by simp_all [joinSlashes]

theorem isAbsolute_upTo (h : parts <+: p.segments) : (p.upTo parts).isAbsolute = p.isAbsolute := by
  simp only [isAbsolute, toList_upTo]
  cases beginning p
  case root hl ht | dot hl ht _ => simp [hl, ht]
  case none hl ht hg =>
    simp only [hl, List.nil_append, ht, decide_false, decide_eq_false_iff_not]
    intro hs
    obtain ⟨part, more, rfl⟩ := head?_joinSlashes (no_slash_of_beginning h) hs
    obtain ⟨rest, hr⟩ := h
    exact ht (head?_of_splitSlashes_cons_cons (hg.symm.trans hr.symm))

theorem isAbsolute_trimmed : p.trimmed.isAbsolute = p.isAbsolute :=
  isAbsolute_upTo (trimIdle_begins _)

theorem leadingLength_le (p : Path) : p.leadingLength ≤ p.text.toList.length := by
  simp only [leadingLength]
  split <;> simp_all

theorem leadingLength_append {q : Path} {t : List Char} (hq : q.text.toList ≠ [])
    (hp : p.text.toList = q.text.toList ++ '/' :: t) : p.leadingLength = q.leadingLength := by
  simp only [leadingLength, hp]
  rcases h : q.text.toList with - | ⟨c, - | ⟨d, more⟩⟩
  case nil => exact absurd h hq
  case cons.nil => by_cases hd : c = '.' <;> by_cases hs : c = '/' <;> simp_all
  case cons.cons => by_cases hd : c = '.' <;> by_cases hs : c = '/' <;> by_cases hn : d = '/' <;> simp_all

-- What follows a slash only adds segments.
theorem segments_append {q : Path} {t : List Char} (hq : q.text.toList ≠ [])
    (hp : p.text.toList = q.text.toList ++ '/' :: t) :
    (p.leading = q.leading) ∧ (p.segments = q.segments ++ splitSlashes t) := by
  have hl := leadingLength_append hq hp
  have hle := leadingLength_le q
  constructor
  · rw [leading, leading, hp, hl, List.take_append_of_le_length hle]
  · rw [segments, segments, hp, hl, List.drop_append_of_le_length hle, splitSlashes_append]

theorem leadingLength_of_isName {n : String} (h : IsName n.toList) : leadingLength ⟨n⟩ = 0 := by
  have := h.ne_dot
  have := h.no_slash
  simp only [leadingLength]
  split <;> simp_all

-- The segments of a path below a directory are those of the directory up to idle ones, and the name.
theorem segments_join {d : Path} {n : String} (h : IsName n.toList) :
    ((d.join ⟨n⟩).leading = d.leading) ∧
      ∃ front, (d.join ⟨n⟩).segments = front ++ [n.toList] ∧ trimIdle front = trimIdle d.segments := by
  have hn := splitSlashes_of_no_slash h.no_slash
  have hj := toList_join (d := d) h
  by_cases he : d.text.toList = []
  case pos =>
    have hj : d.join ⟨n⟩ = ⟨n⟩ := by
      have ht : (d.join ⟨n⟩).text = n := by simpa [he, ← String.toList_inj] using hj
      exact congrArg Path.mk ht
    have hl := leadingLength_of_isName h
    refine ⟨?_, [], ?_, ?_⟩
    · simp [hj, leading, hl, he]
    · simp [hj, segments, hl, hn]
    · simp [segments, he, splitSlashes, trimIdle]
  case neg =>
    by_cases hs : d.text.toList.getLast? = some '/'
    case neg =>
      have ⟨hl, hs⟩ := segments_append (p := d.join ⟨n⟩) (t := n.toList) he (by simpa [he, hs] using hj)
      exact ⟨hl, _, by simpa [hn] using hs, rfl⟩
    case pos =>
      have ⟨front, hf⟩ := List.getLast?_eq_some_iff.mp hs
      replace hj : (d.join ⟨n⟩).text.toList = front ++ '/' :: n.toList := by
        simpa [hs, hf] using hj
      cases front with
      | nil =>
        refine ⟨?_, [], ?_, ?_⟩
        · simp [leading, leadingLength, hj, hf]
        · simp [segments, leadingLength, hj, hn]
        · simp [segments, leadingLength, hf, splitSlashes, trimIdle]
      | cons c front =>
        let q : Path := ⟨String.ofList (c :: front)⟩
        have ⟨hl, hs⟩ := segments_append (p := d.join ⟨n⟩) (q := q) (t := n.toList) (by simp [q]) (by simpa [q] using hj)
        have ⟨hl', hs'⟩ := segments_append (p := d) (q := q) (t := []) (by simp [q]) (by simpa [q] using hf)
        refine ⟨by rw [hl, hl'], _, by simpa [hn] using hs, ?_⟩
        rw [hs', trimIdle_append_idle (by simp [splitSlashes])]

theorem parent?_join {d : Path} {n : String} (h : IsName n.toList) :
    (d.join ⟨n⟩).parent? = some d.trimmed := by
  obtain ⟨hl, front, hs, ht⟩ := segments_join (d := d) h
  simp [parent?, hs, trimIdle_append_of_not_idle h.not_idle, hl, ht, trimmed]

theorem not_idle_of_trimIdle {front : List (List Char)} {s : List Char} (h : trimIdle segs = front ++ [s]) :
    isIdle s = false := by
  have hd : (segs.reverse.dropWhile isIdle) = s :: front.reverse := by
    simpa [trimIdle, List.reverse_eq_iff] using h
  simpa [hd] using List.head_dropWhile_not isIdle (l := segs.reverse) (by simp [hd])

theorem getLast?_of_fileName? {name : List Char} (h : p.fileName? = some name) :
    (p.steps.getLast? = some name) ∧ (name ≠ ['.', '.']) := by
  simp only [fileName?] at h
  split at h <;> try contradiction
  split at h <;> cases h
  exact ⟨‹_›, ‹_›⟩

theorem isName_of_fileName? {name : List Char} (h : p.fileName? = some name) : IsName name := by
  have ⟨hs, hd⟩ := getLast?_of_fileName? h
  have ⟨hm, hi⟩ := List.mem_filter.mp (List.mem_of_getLast? hs)
  have ⟨h₁, h₂⟩ : (name ≠ []) ∧ (name ≠ ['.']) := by simpa [isIdle] using hi
  exact ⟨h₁, h₂, hd, no_slash_of_mem_splitSlashes hm⟩

-- One step up from a name is the way to it without the name.
theorem parent?_of_fileName? {name : List Char} (h : p.fileName? = some name) :
    ∃ q, (p.parent? = some q) ∧ (p.steps = q.steps ++ [name]) ∧ (q.isAbsolute = p.isAbsolute) := by
  have ⟨hs, _⟩ := getLast?_of_fileName? h
  have ht : p.steps = (trimIdle p.segments).filter (!isIdle ·) := (filter_trimIdle _).symm
  rcases hr : (trimIdle p.segments).reverse with _ | ⟨s, front⟩
  case nil => simp [ht, List.reverse_eq_nil_iff.mp hr] at hs
  case cons =>
    have hf : trimIdle p.segments = front.reverse ++ [s] := by simpa [List.reverse_eq_iff] using hr
    replace ht : p.steps = front.reverse.filter (!isIdle ·) ++ [s] := by simpa [hf, not_idle_of_trimIdle hf] using ht
    obtain rfl : s = name := by simpa [ht] using hs
    have hp : trimIdle front.reverse <+: p.segments :=
      (trimIdle_begins _).trans <| .trans ⟨[s], hf.symm⟩ (trimIdle_begins _)
    refine ⟨p.upTo (trimIdle front.reverse), by rw [parent?, hr]; rfl, ?_, isAbsolute_upTo hp⟩
    rw [steps_upTo hp, filter_trimIdle, ht]

end Trimmed

end ModelForge.Path
