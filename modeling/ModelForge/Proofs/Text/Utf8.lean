import Mathlib.Order.Defs.LinearOrder
import ModelForge.Text.Utf8

namespace ModelForge.Text.Utf8

variable {s t : List Char} {c d : Char}

-- Of two characters the greater one has the greater bytes, and none of the two byte sequences begins the other.
theorem encodeChar_lt (h : c < d) (x y : Bytes) :
    String.utf8EncodeChar c ++ x < String.utf8EncodeChar d ++ y := by
  have hn : c.val.toNat < d.val.toNat := h
  have hd : d.val.toNat < 1114112 := by
    rcases d.valid with h | h
    · exact Nat.lt_trans h (by decide)
    · exact h.right
  rw [String.utf8EncodeChar, String.utf8EncodeChar]
  generalize c.val.toNat = m at *
  generalize d.val.toNat = n at *
  -- The payloads are digits in base 64.
  have base (k : Nat) : (k / 4096 = k / 64 / 64) ∧ (k / 262144 = k / 64 / 64 / 64) := by omega
  simp only [base]
  split <;> split
  all_goals repeat' split
  all_goals try omega
  all_goals
    simp only [List.cons_append, List.nil_append, List.cons_lt_cons_iff, UInt8.lt_iff_toNat_lt, ← UInt8.toNat_inj,
      UInt8.toNat_ofNat']
    omega

theorem encode_lt (h : s < t) : encode s < encode t := by
  induction h with
  | @nil a rest =>
    obtain ⟨b, bytes, hb⟩ := List.exists_cons_of_ne_nil (String.utf8EncodeChar_ne_nil (c := a))
    simp [encode, hb]
  | cons _ hi => exact List.append_left_lt hi
  | rel h => exact encodeChar_lt h _ _

-- The order of texts by their characters is that by their bytes.
theorem encode_lt_iff : encode s < encode t ↔ s < t := by
  refine ⟨fun h => Decidable.byContradiction fun hn => ?_, encode_lt⟩
  rcases List.le_iff_lt_or_eq.mp (List.not_lt.mp hn) with hl | rfl
  case inl => exact List.lt_asymm h (encode_lt hl)
  case inr => exact List.lt_irrefl _ h

section Decode

variable {x y z u : UInt8} {m n o p : Nat} {rest : Bytes}

theorem toNat_byte (h : n < 256) : (UInt8.ofNat n).toNat = n := by
  rw [UInt8.toNat_ofNat']
  exact Nat.mod_eq_of_lt h

-- A byte that continues a character, and the six bits that it carries.
theorem isContinuation_of_toNat (hy : y.toNat = n + 0x80) (hn : n < 64) : isContinuation y := by
  simp only [isContinuation, Bool.and_eq_true, decide_eq_true_eq, UInt8.le_iff_toNat_le, hy, UInt8.reduceToNat]
  omega

theorem payload_of_toNat (hy : y.toNat = n + 0x80) (hn : n < 64) : payload y = n := by
  rw [payload, hy]
  omega

-- A first byte that is too great for a shorter character.
theorem not_lt_of_toNat (hx : 0x80 ≤ x.toNat) : ¬x < 0x80 := by
  rw [UInt8.lt_iff_toNat_lt]
  exact Nat.not_lt.mpr hx

theorem not_le_of_toNat (hx : 0xE0 ≤ x.toNat) : ¬x ≤ 0xDF := by
  rw [UInt8.le_iff_toNat_le]
  exact Nat.not_le.mpr hx

theorem unit_one (hx : x.toNat = n) (hn : n < 0x80) : unit x rest = .character (Char.ofNat n) 1 := by
  simp only [unit, UInt8.lt_iff_toNat_lt, hx, UInt8.reduceToNat, hn, if_true]

theorem unit_two (hx : x.toNat = m + 0xC0) (hy : y.toNat = n + 0x80) (hm : 2 ≤ m ∧ m < 32) (hn : n < 64) :
    unit x (y :: rest) = .character (Char.ofNat (m * 64 + n)) 2 := by
  have h₁ : ¬x < 0x80 := not_lt_of_toNat (by omega)
  have h₂ : 0xC2 ≤ x ∧ x ≤ 0xDF := by
    simp only [UInt8.le_iff_toNat_le, hx, UInt8.reduceToNat]
    omega
  have hp : x.toNat % 32 = m := by omega
  simp [unit, h₁, h₂, isContinuation_of_toNat hy hn, hp, payload_of_toNat hy hn]

-- Forms that are too long, and surrogates, are left out already by the second byte.
theorem allowsSecond_of_three (hx : x.toNat = m + 0xE0) (hy : y.toNat = n + 0x80) (hm : m < 16) (hn : n < 64)
    (short : m = 0 → 32 ≤ n) (scalar : m = 13 → n < 32) : allowsSecond x y := by
  have hc := isContinuation_of_toNat hy hn
  simp only [allowsSecond, ← UInt8.toNat_inj, UInt8.le_iff_toNat_le, hx, hy, UInt8.reduceToNat]
  split
  · simp only [Bool.and_eq_true, decide_eq_true_eq]
    omega
  split
  · simp only [Bool.and_eq_true, decide_eq_true_eq]
    omega
  rw [if_neg (by omega), if_neg (by omega)]
  exact hc

theorem unit_three (hx : x.toNat = m + 0xE0) (hy : y.toNat = n + 0x80) (hz : z.toNat = o + 0x80) (hm : m < 16)
    (hn : n < 64) (ho : o < 64) (short : m = 0 → 32 ≤ n) (scalar : m = 13 → n < 32) :
    unit x (y :: z :: rest) = .character (Char.ofNat ((m * 64 + n) * 64 + o)) 3 := by
  have h₁ : ¬x < 0x80 := not_lt_of_toNat (by omega)
  have h₂ : ¬x ≤ 0xDF := not_le_of_toNat (by omega)
  have h₃ : 0xE0 ≤ x ∧ x ≤ 0xEF := by
    simp only [UInt8.le_iff_toNat_le, hx, UInt8.reduceToNat]
    omega
  have hp : x.toNat % 16 = m := by omega
  simp [unit, h₁, h₂, h₃, allowsSecond_of_three hx hy hm hn short scalar, isContinuation_of_toNat hz ho, hp,
    payload_of_toNat hy hn, payload_of_toNat hz ho]

theorem allowsSecond_of_four (hx : x.toNat = m + 0xF0) (hy : y.toNat = n + 0x80) (hm : m < 5) (hn : n < 64)
    (short : m = 0 → 16 ≤ n) (last : m = 4 → n < 16) : allowsSecond x y := by
  have hc := isContinuation_of_toNat hy hn
  simp only [allowsSecond, ← UInt8.toNat_inj, UInt8.le_iff_toNat_le, hx, hy, UInt8.reduceToNat]
  rw [if_neg (by omega), if_neg (by omega)]
  split
  · simp only [Bool.and_eq_true, decide_eq_true_eq]
    omega
  split
  · simp only [Bool.and_eq_true, decide_eq_true_eq]
    omega
  exact hc

theorem unit_four (hx : x.toNat = m + 0xF0) (hy : y.toNat = n + 0x80) (hz : z.toNat = o + 0x80)
    (hu : u.toNat = p + 0x80) (hm : m < 5) (hn : n < 64) (ho : o < 64) (hp : p < 64) (short : m = 0 → 16 ≤ n)
    (last : m = 4 → n < 16) :
    unit x (y :: z :: u :: rest) = .character (Char.ofNat (((m * 64 + n) * 64 + o) * 64 + p)) 4 := by
  have h₁ : ¬x < 0x80 := not_lt_of_toNat (by omega)
  have h₂ : ¬x ≤ 0xDF := not_le_of_toNat (by omega)
  have h₃ : ¬x ≤ 0xEF := by
    simp only [UInt8.le_iff_toNat_le, hx, UInt8.reduceToNat]
    omega
  have h₄ : 0xF0 ≤ x ∧ x ≤ 0xF4 := by
    simp only [UInt8.le_iff_toNat_le, hx, UInt8.reduceToNat]
    omega
  have hq : x.toNat % 8 = m := by omega
  simp [unit, h₁, h₂, h₃, h₄, allowsSecond_of_four hx hy hm hn short last, isContinuation_of_toNat hz ho,
    isContinuation_of_toNat hu hp, hq, payload_of_toNat hy hn, payload_of_toNat hz ho, payload_of_toNat hu hp]

-- The bytes of a character are read as that character, whatever follows them.
theorem unit_encodeChar (c : Char) (rest : Bytes) : ∃ b bytes, (String.utf8EncodeChar c = b :: bytes) ∧
    (unit b (bytes ++ rest) = .character c (bytes.length + 1)) := by
  have hc : Char.ofNat c.val.toNat = c := Char.ofNat_toNat c
  have hv : c.val.toNat < 0xD800 ∨ 0xDFFF < c.val.toNat ∧ c.val.toNat < 0x110000 := c.valid
  rw [String.utf8EncodeChar]
  generalize c.val.toNat = n at *
  split
  case isTrue => exact ⟨_, _, rfl, hc ▸ unit_one (toNat_byte (by omega)) (by omega)⟩
  split
  case isTrue =>
    have hn : n / 64 % 32 * 64 + n % 64 = n := by omega
    have hu : unit _ (_ :: rest) = _ :=
      unit_two (m := n / 64 % 32) (n := n % 64) (toNat_byte (by omega)) (toNat_byte (by omega)) (by omega) (by omega)
    rw [hn, hc] at hu
    exact ⟨_, _, rfl, hu⟩
  split
  case isTrue =>
    have hn : (n / 4096 % 16 * 64 + n / 64 % 64) * 64 + n % 64 = n := by omega
    have hu : unit _ (_ :: _ :: rest) = _ :=
      unit_three (m := n / 4096 % 16) (n := n / 64 % 64) (o := n % 64) (toNat_byte (by omega)) (toNat_byte (by omega))
        (toNat_byte (by omega)) (by omega) (by omega) (by omega) (by omega) (by omega)
    rw [hn, hc] at hu
    exact ⟨_, _, rfl, hu⟩
  case isFalse =>
    have hn : ((n / 262144 % 8 * 64 + n / 4096 % 64) * 64 + n / 64 % 64) * 64 + n % 64 = n := by omega
    have hu : unit _ (_ :: _ :: _ :: rest) = _ :=
      unit_four (m := n / 262144 % 8) (n := n / 4096 % 64) (o := n / 64 % 64) (p := n % 64) (toNat_byte (by omega))
        (toNat_byte (by omega)) (toNat_byte (by omega)) (toNat_byte (by omega)) (by omega) (by omega) (by omega)
        (by omega) (by omega) (by omega)
    rw [hn, hc] at hu
    exact ⟨_, _, rfl, hu⟩

theorem decodeFrom_skip (index : Nat) (bytes rest : Bytes) :
    decodeFrom index bytes.length (bytes ++ rest) = decodeFrom (index + bytes.length) 0 rest := by
  induction bytes generalizing index with
  | nil => rfl
  | cons b bytes hi =>
    simp only [List.length_cons, List.cons_append, decodeFrom, hi]
    rw [Nat.add_right_comm, Nat.add_assoc]

theorem decodeFrom_encode (index : Nat) (s : List Char) : decodeFrom index 0 (encode s) = .ok s := by
  induction s generalizing index with
  | nil => rfl
  | cons c s hi =>
    have ⟨b, bytes, hb, hu⟩ := unit_encodeChar c (encode s)
    have he : encode (c :: s) = b :: (bytes ++ encode s) := by
      simp only [encode, List.flatMap_cons, hb, List.cons_append]
    rw [he, decodeFrom, hu]
    simp only [Nat.add_sub_cancel, decodeFrom_skip, hi]
    rfl

-- Text that is written as bytes is read back.
theorem decode_encode (s : List Char) : decode (encode s) = .ok s := decodeFrom_encode 0 s

end Decode

end ModelForge.Text.Utf8
