import ModelForge.Proofs.Json.Value
import ModelForge.Yaml.Reader

namespace ModelForge.Yaml

variable {m : Meaning} {v : Json} {tag : Option String} {s : String} {style : ScalarStyle}

-- An integer of this meaning has 64 bits, with a sign or without one.
def Meaning.Fits : Meaning → Prop
  | .int n => Json.Fits64 n
  | _ => True

theorem negative?_nonpos {s : List Char} {n : Int} (h : negative? s = some n) : n ≤ 0 := by
  simp only [negative?] at h
  split at h
  case h_1 =>
    obtain rfl := Option.some.inj h
    omega
  case h_2 =>
    split at h
    case isTrue => cases h
    obtain ⟨_, hd, rfl⟩ := Option.map_eq_some_iff.mp h
    obtain ⟨k, _, hk⟩ := Option.bind_eq_some_iff.mp hd
    obtain rfl := Option.some.inj hk
    omega
  case h_3 => cases h

theorem integer?_fits {s : List Char} (h : integer? s = some m) : m.Fits := by
  simp only [integer?] at h
  split at h
  case h_1 n _ =>
    split at h
    case isTrue hn =>
      cases h
      exact ⟨by omega, Int.ofNat_lt.mpr hn⟩
    case isFalse =>
      split at h <;> cases h
      trivial
  case h_2 n _ hn =>
    split at h
    case isTrue hl =>
      cases h
      exact ⟨hl, Int.lt_of_le_of_lt (negative?_nonpos hn) (by decide)⟩
    case isFalse =>
      split at h <;> cases h
      trivial
  case h_3 => cases h

theorem real?_fits (h : real? s = some m) : m.Fits := by
  simp only [real?] at h
  split at h
  case isTrue => cases h; trivial
  split at h
  case isTrue => cases h; trivial
  split at h
  case isTrue => cases h; trivial
  obtain ⟨_, _, h⟩ := Option.bind_eq_some_iff.mp h
  obtain ⟨_, _, rfl⟩ := Option.map_eq_some_iff.mp h
  trivial

theorem Meaning.ofPlain_fits (s : String) : (ofPlain s).Fits := by
  rw [ofPlain]
  split
  case isTrue => trivial
  split
  case h_1 => trivial
  split
  case h_1 hi => exact integer?_fits hi
  split
  case isTrue => trivial
  cases hr : real? s with
  | none => trivial
  | some => exact real?_fits hr

theorem Meaning.ofScalar_fits (h : ofScalar tag s style = .ok m) : m.Fits := by
  have plain : (ofPlain s).Fits := ofPlain_fits s
  simp only [ofScalar] at h
  grind [integer?_fits, real?_fits, Meaning.Fits]

theorem Meaning.Fits.canonical (hf : m.Fits) (h : Document.toJson m = some v) : v.Canonical := by
  cases m <;> cases h
  case int => exact .int hf
  all_goals constructor

namespace Document

variable {α β : Type} {fuel : Nat} {d : Document} {p : Place}

theorem bind_ok {r : Except Error α} {f : α → Except Error β} {b : β} (h : (r >>= f) = .ok b) :
    ∃ a, (r = .ok a) ∧ (f a = .ok b) := by
  cases r with
  | error => cases h
  | ok a => exact ⟨a, rfl, h⟩

-- What is read of a document with some fuel can be the content of a document.
structure ReadsCanonical (fuel : Nat) : Prop where
  value {d : Document} {p : Place} {r : Reading Json} : (readJson fuel d p = .ok r) → r.value.Canonical
  items {d : Document} {p : Place} {index : Nat} {acc : List Json} {r : Reading (List Json)} :
    (readJsonItems fuel d p index acc = .ok r) → (∀ x ∈ acc, x.Canonical) → ∀ x ∈ r.value, x.Canonical
  members {d : Document} {p : Place} {expected : String} {acc : List (String × Json)}
      {r : Reading (List (String × Json))} :
    (readJsonMembers fuel d p expected acc = .ok r) → (Keyed.Sorted acc) → (∀ m ∈ acc, m.2.Canonical) →
      (Keyed.Sorted r.value) ∧ (∀ m ∈ r.value, m.2.Canonical)

namespace ReadsCanonical

theorem readJson_succ {r : Reading Json} (hr : ReadsCanonical fuel) (h : readJson (fuel + 1) d p = .ok r) :
    r.value.Canonical := by
  rw [readJson] at h
  obtain ⟨⟨e, mark⟩, _, h⟩ := bind_ok h
  cases e with
  | «alias» =>
    obtain ⟨_, _, h⟩ := bind_ok h
    obtain ⟨r, hv, h⟩ := bind_ok h
    cases h
    exact hr.value (r := r) hv
  | scalar =>
    dsimp only at h
    split at h
    case isTrue => cases h
    split at h
    case h_1 => cases h
    case h_2 hm =>
      split at h
      case h_1 hj => cases h; exact (Meaning.ofScalar_fits hm).canonical hj
      case h_2 => cases h
  | sequenceStart =>
    dsimp only at h
    split at h
    case isTrue => cases h
    obtain ⟨_, _, h⟩ := bind_ok h
    obtain ⟨_, hi, h⟩ := bind_ok h
    cases h
    exact .arr (hr.items hi nofun)
  | mappingStart =>
    dsimp only at h
    split at h
    case isTrue => cases h
    obtain ⟨_, _, h⟩ := bind_ok h
    obtain ⟨_, hm, h⟩ := bind_ok h
    cases h
    have ⟨hs, hv⟩ := hr.members hm .nil nofun
    exact .obj hs hv
  | void => cases h; exact .null
  | sequenceEnd | mappingEnd => cases h

theorem readJsonItems_succ {index : Nat} {acc : List Json} {r : Reading (List Json)} (hr : ReadsCanonical fuel)
    (h : readJsonItems (fuel + 1) d p index acc = .ok r) (ha : ∀ x ∈ acc, x.Canonical) :
    ∀ x ∈ r.value, x.Canonical := by
  rw [readJsonItems] at h
  obtain ⟨⟨e, mark⟩, _, h⟩ := bind_ok h
  dsimp only at h
  split at h
  case isTrue =>
    cases h
    exact fun x hx => ha x (List.mem_reverse.mp hx)
  case isFalse =>
    obtain ⟨_, hv, h⟩ := bind_ok h
    refine hr.items h fun x hx => ?_
    rcases List.mem_cons.mp hx with rfl | hx
    case inl => exact hr.value hv
    case inr => exact ha x hx

theorem readJsonMembers_succ {expected : String} {acc : List (String × Json)} {r : Reading (List (String × Json))}
    (hr : ReadsCanonical fuel) (h : readJsonMembers (fuel + 1) d p expected acc = .ok r) (hs : Keyed.Sorted acc)
    (ha : ∀ m ∈ acc, m.2.Canonical) : (Keyed.Sorted r.value) ∧ (∀ m ∈ r.value, m.2.Canonical) := by
  rw [readJsonMembers] at h
  obtain ⟨⟨e, mark⟩, _, h⟩ := bind_ok h
  dsimp only at h
  split at h
  case isTrue =>
    cases h
    exact ⟨hs, ha⟩
  case isFalse =>
    obtain ⟨k, _, h⟩ := bind_ok h
    obtain ⟨_, hv, h⟩ := bind_ok h
    refine hr.members h (Keyed.sorted_put hs) fun m hm => ?_
    rcases Keyed.mem_put hm with rfl | hm
    case inl => exact hr.value hv
    case inr => exact ha m hm

end ReadsCanonical

theorem readsCanonical (fuel : Nat) : ReadsCanonical fuel := by
  induction fuel with
  | zero => exact ⟨nofun, nofun, nofun⟩
  | succ _ hi => exact ⟨hi.readJson_succ, hi.readJsonItems_succ, hi.readJsonMembers_succ⟩

theorem readAll_ok {text : String} {read : Document → Place → Except Error (Reading α)} {a : α}
    (h : readAll text read = .ok a) : ∃ d p r, (read d p = .ok r) ∧ (r.value = a) := by
  simp only [readAll] at h
  obtain ⟨r, hr, h⟩ := bind_ok h
  refine ⟨_, _, r, hr, ?_⟩
  split at h
  case h_1 => cases h
  case h_2 =>
    split at h
    case isTrue => cases h
    case isFalse => exact Except.ok.inj h

end Document

theorem parse_canonical (h : parse s = .ok v) : v.Canonical := by
  obtain ⟨_, _, _, hr, rfl⟩ := Document.readAll_ok h
  exact (Document.readsCanonical _).value hr

end ModelForge.Yaml
