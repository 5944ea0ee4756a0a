import ModelForge.Json.Parser
import ModelForge.Json.Printer
import ModelForge.Proofs.Json.Value

namespace ModelForge.Json

open Text

variable {α β : Type} {fuel depth level n : Nat} {c x : Char} {s rest more : List Char} {p p' : Position}

-- Reading comes to a value and leaves a rest of the text, whatever its position.
def Yields (r : Except ParseError (α × Cursor)) (a : α) (rest : List Char) : Prop :=
  ∃ p, r = .ok (a, ⟨rest, p⟩)

theorem Yields.ok {a : α} : Yields (.ok (a, ⟨rest, p⟩)) a rest := ⟨p, rfl⟩

theorem Yields.bind {r : Except ParseError (α × Cursor)} {f : α × Cursor → Except ParseError (β × Cursor)} {a : α} {b : β}
    (h : Yields r a rest) (hf : ∀ p, Yields (f (a, ⟨rest, p⟩)) b more) : Yields (r >>= f) b more := by
  obtain ⟨p, rfl⟩ := h
  exact hf p

@[simp]
theorem next?_cons : Cursor.next? ⟨x :: rest, p⟩ = some (x, ⟨rest, p.advance x⟩) := rfl

section Blanks

theorem skipBlanks_of_not_blank (h : isBlank x = false) : skipBlanks ⟨x :: rest, p⟩ = ⟨x :: rest, p⟩ := by
  simp [skipBlanks, Cursor.skipWhile, Cursor.skipWhile.go, h]

theorem skipBlanks_append {blanks : List Char} (hb : ∀ c ∈ blanks, isBlank c) (hx : isBlank x = false) (p : Position) :
    ∃ p', skipBlanks ⟨blanks ++ x :: rest, p⟩ = ⟨x :: rest, p'⟩ := by
  induction blanks generalizing p with
  | nil => exact ⟨p, skipBlanks_of_not_blank hx⟩
  | cons c blanks hi =>
    have hc : isBlank c := hb c List.mem_cons_self
    have ⟨p', hp⟩ := hi (fun c hc => hb c (List.mem_cons_of_mem _ hc)) (p.advance c)
    exact ⟨p', by simpa [skipBlanks, Cursor.skipWhile, Cursor.skipWhile.go, hc] using hp⟩

theorem skipBlanks_newline (level : Nat) (hx : isBlank x = false) (p : Position) :
    ∃ p', skipBlanks ⟨(newline level).toList ++ x :: rest, p⟩ = ⟨x :: rest, p'⟩ := by
  refine skipBlanks_append (fun c hc => ?_) hx p
  simp only [newline, String.toList_ofList, List.mem_cons, List.mem_replicate] at hc
  rcases hc with rfl | ⟨_, rfl⟩ <;> rfl

theorem length_newline_pos (level : Nat) : 0 < (newline level).toList.length := by
  simp [newline]

end Blanks

section Strings

theorem hexValue?_hexDigit : ∀ n < 16, hexValue? (hexDigit n) = some n := by decide

theorem length_le_byteLength (s : List Char) : s.length ≤ byteLength s := by
  suffices h : ∀ n, n + s.length ≤ s.foldl (fun n c => n + c.utf8Size) n by simpa [byteLength] using h 0
  induction s with
  | nil => simp
  | cons c s hi =>
    intro n
    have hc := c.utf8Size_pos
    have hn := hi (n + c.utf8Size)
    simp only [List.length_cons, List.foldl_cons]
    omega

theorem readHex_control (h : c.toNat < 32) : Yields
    (readHex ⟨'0' :: '0' :: hexDigit (c.toNat / 16) :: hexDigit (c.toNat % 16) :: rest, p⟩) c.toNat rest := by
  have hl := length_le_byteLength ('0' :: '0' :: hexDigit (c.toNat / 16) :: hexDigit (c.toNat % 16) :: rest)
  simp only [List.length_cons] at hl
  have h₁ := hexValue?_hexDigit (c.toNat / 16) (by omega)
  have h₂ := hexValue?_hexDigit (c.toNat % 16) (by omega)
  have h₀ : hexValue? '0' = some 0 := rfl
  have hd : 16 * (c.toNat / 16) + c.toNat % 16 = c.toNat := Nat.div_add_mod _ _
  rw [readHex, if_neg (by dsimp only; omega)]
  simp only [List.take_succ_cons, List.take_zero, List.mapM_cons, List.mapM_nil, h₀, h₁, h₂, Option.pure_def,
    Option.bind_eq_bind, Option.bind_some, List.foldl_cons, List.foldl_nil, Nat.mul_zero, Nat.zero_add, hd]
  exact .ok

-- How a character stands in a string, and what reads it there.
inductive Escaped (c : Char) : Prop
  | plain (escape : escape c = [c]) (quote : c ≠ '"') (backslash : c ≠ '\\') (control : ¬c.toNat < 32)
  | code (code : List Char) (escape : escape c = '\\' :: code)
    (reads : ∀ rest p, Yields (readEscape ⟨code ++ rest, p⟩) c rest)

theorem escaped (c : Char) : Escaped c := by
  by_cases h₁ : c = '"'
  case pos => exact h₁ ▸ .code ['"'] rfl fun _ _ => .ok
  by_cases h₂ : c = '\\'
  case pos => exact h₂ ▸ .code ['\\'] rfl fun _ _ => .ok
  by_cases h₃ : c = '\x08'
  case pos => exact h₃ ▸ .code ['b'] rfl fun _ _ => .ok
  by_cases h₄ : c = '\x0c'
  case pos => exact h₄ ▸ .code ['f'] rfl fun _ _ => .ok
  by_cases h₅ : c = '\n'
  case pos => exact h₅ ▸ .code ['n'] rfl fun _ _ => .ok
  by_cases h₆ : c = '\r'
  case pos => exact h₆ ▸ .code ['r'] rfl fun _ _ => .ok
  by_cases h₇ : c = '\t'
  case pos => exact h₇ ▸ .code ['t'] rfl fun _ _ => .ok
  by_cases h₈ : c.toNat < 32
  case neg => exact .plain (by simp [escape, h₁, h₂, h₃, h₄, h₅, h₆, h₇, h₈]) h₁ h₂ h₈
  case pos =>
    refine .code _ (by simp only [escape, h₁, h₂, h₃, h₄, h₅, h₆, h₇, h₈, if_false, if_true]; rfl) fun rest p => ?_
    refine Yields.bind (readHex_control h₈) fun p => ?_
    -- A control is no half of a surrogate pair.
    have h₉ : ¬0xDC00 ≤ c.toNat := by omega
    have h₁₀ : ¬0xD800 ≤ c.toNat := by omega
    simp only [h₉, h₁₀, decide_false, Bool.false_and, Char.ofNat_toNat]
    exact .ok

theorem length_le_flatMap_escape (s : List Char) : s.length ≤ (s.flatMap escape).length := by
  induction s with
  | nil => simp
  | cons c s hi =>
    rw [List.flatMap_cons, List.length_append, List.length_cons]
    cases escaped c with
    | plain he | code _ he => rw [he, List.length_cons]; omega

theorem readString_quoted (h : s.length < fuel) (acc : List Char) : Yields
    (readString fuel acc ⟨s.flatMap escape ++ '"' :: rest, p⟩) (String.ofList (acc.reverse ++ s)) rest := by
  induction s generalizing fuel acc p with
  | nil =>
    obtain ⟨fuel, rfl⟩ := Nat.exists_eq_add_one.mpr h
    rw [List.append_nil]
    exact .ok
  | cons c s hi =>
    obtain ⟨fuel, rfl⟩ := Nat.exists_eq_add_one.mpr (Nat.zero_lt_of_lt h)
    -- The character is in front of those that have been read, whose order is turned around in the end.
    have hi {p : Position} := hi (p := p) (Nat.lt_of_succ_lt_succ h) (c :: acc)
    simp only [List.reverse_cons, List.append_assoc, List.singleton_append] at hi
    rw [List.flatMap_cons]
    cases escaped c with
    | plain he hq hb hc => simpa [he, readString, Cursor.next?, hq, hb, hc] using hi
    | code code he hr =>
      rw [he, List.append_assoc, List.cons_append]
      exact Yields.bind (hr _ _) fun _ => hi

end Strings

section Numbers

-- What follows a number does not go on with it.
def EndsNumber (rest : List Char) : Prop :=
  ∀ c ∈ rest.head?, (isDigit c = false) ∧ (c ≠ '.') ∧ (c ≠ 'e') ∧ (c ≠ 'E')

theorem isDigit_of_mem_toDigits (h : c ∈ Nat.toDigits 10 n) : isDigit c := by
  have hd := Nat.isDigit_of_mem_toDigits (by decide) (by decide) h
  simpa [isDigit, Char.isDigit, Char.le_def] using hd

theorem head?_toDigits_ne_zero (h : n ≠ 0) : (Nat.toDigits 10 n).head? ≠ some '0' := by
  induction n using Nat.strongRecOn with
  | ind n hi =>
    rw [Nat.toDigits_eq_if (by decide)]
    split
    case isTrue => simpa using h
    case isFalse hn =>
      have ⟨x, ds, hx⟩ := List.exists_cons_of_ne_nil (Nat.toDigits_ne_nil (n := n / 10) (b := 10))
      have hi := hi (n / 10) (by omega) (by omega)
      simpa [hx] using hi

theorem le_ofDigitChars (s : List Char) (n : Nat) : n ≤ Nat.ofDigitChars 10 s n := by
  rw [Nat.ofDigitChars_eq_ofDigitChars_zero]
  have hp : 1 * n ≤ 10 ^ s.length * n := Nat.mul_le_mul_right n (Nat.pow_pos (by decide))
  omega

theorem digitRun_digits {bound : Nat} (hd : ∀ c ∈ s, isDigit c) (hb : Nat.ofDigitChars 10 s n < bound)
    (he : EndsNumber rest) : ∃ taken p',
    digitRun bound n ⟨s ++ rest, p⟩ = ⟨Nat.ofDigitChars 10 s n, taken, 0, ⟨rest, p'⟩⟩ := by
  suffices h : ∀ taken, ∃ taken' p',
      digitRun.go bound n taken 0 p (s ++ rest) = ⟨Nat.ofDigitChars 10 s n, taken', 0, ⟨rest, p'⟩⟩ from h 0
  induction s generalizing n p with
  | nil =>
    intro taken
    cases rest with
    | nil => exact ⟨taken, p, rfl⟩
    | cons c rest =>
      have ⟨hc, _⟩ := he c rfl
      exact ⟨taken, p, by simp [digitRun.go, hc]⟩
  | cons c s hi =>
    intro taken
    have hc : isDigit c := hd c List.mem_cons_self
    rw [Nat.ofDigitChars_cons] at hb ⊢
    have hl : 10 * n + digitValue c < bound := Nat.lt_of_le_of_lt (le_ofDigitChars s _) hb
    have ⟨taken', p', hr⟩ := hi (fun c hc => hd c (List.mem_cons_of_mem _ hc)) hb (p := p.advance c) (taken + 1)
    refine ⟨taken', p', ?_⟩
    simp only [List.cons_append, digitRun.go, hc, hl, decide_true, Bool.and_self, if_true]
    exact hr

-- A run of digits is a whole number if nothing goes on with it.
theorem readNumber_toDigits (negative : Bool) (h : n < Nat.pow 2 64) (he : EndsNumber rest) :
    ∃ p', readNumber negative ⟨Nat.toDigits 10 n ++ rest, p⟩ = wholeNumber negative n ⟨rest, p'⟩ := by
  have ⟨x, ds, hx⟩ := List.exists_cons_of_ne_nil (Nat.toDigits_ne_nil (n := n) (b := 10))
  have hd : ∀ c ∈ x :: ds, isDigit c := fun c hc => isDigit_of_mem_toDigits (hx ▸ hc)
  have hv : Nat.ofDigitChars 10 ds (digitValue x) = n := by
    rw [← Nat.ofDigitChars_ten_toDigits (n := n), hx, Nat.ofDigitChars_cons, Nat.mul_zero, Nat.zero_add]
    rfl
  by_cases hn : n = 0
  case pos =>
    refine ⟨p.advance '0', ?_⟩
    rw [hn, Nat.toDigits_zero]
    cases rest with
    | nil => rfl
    | cons y rest =>
      have ⟨h₁, h₂, h₃, h₄⟩ := he y rfl
      have h₀ : isDigit '0' := rfl
      simp [readNumber, Cursor.next?, h₀, h₁, h₃, h₄]
  case neg =>
    -- Without a zero in front, the digits are one run.
    have h₀ : x ≠ '0' := fun h₀ => head?_toDigits_ne_zero hn (by rw [hx, h₀, List.head?_cons])
    have hb : Nat.ofDigitChars 10 ds (digitValue x) < significandBound := hv ▸ h
    have ⟨taken, p', hr⟩ := digitRun_digits (p := p.advance x) (fun c hc => hd c (List.mem_cons_of_mem x hc)) hb he
    refine ⟨p', ?_⟩
    rw [hx, List.cons_append]
    cases rest with
    | nil => simp_all [readNumber, Cursor.next?]
    | cons y rest =>
      have ⟨h₁, h₂, h₃, h₄⟩ := he y rfl
      simp_all [readNumber, Cursor.next?]

theorem readNumber_nat (h : n < Nat.pow 2 64) (he : EndsNumber rest) :
    Yields (readNumber false ⟨Nat.toDigits 10 n ++ rest, p⟩) (.int n) rest := by
  have ⟨p', hr⟩ := readNumber_toDigits (p := p) false h he
  exact ⟨p', hr⟩

theorem readNumber_neg (hz : n ≠ 0) (h : n ≤ Nat.pow 2 63) (he : EndsNumber rest) :
    Yields (readNumber true ⟨Nat.toDigits 10 n ++ rest, p⟩) (.int (-n)) rest := by
  have hl : n < Nat.pow 2 64 := Nat.lt_of_le_of_lt h (by decide)
  have ⟨p', hr⟩ := readNumber_toDigits (p := p) true hl he
  have hb : ¬n > Nat.pow 2 63 := Nat.not_lt.mpr h
  exact ⟨p', by simp [hr, wholeNumber, hz, hb]⟩

theorem endsNumber_nil : EndsNumber [] := nofun

theorem endsNumber_cons (h : isDigit c = false ∧ c ≠ '.' ∧ c ≠ 'e' ∧ c ≠ 'E') : EndsNumber (c :: rest) :=
  fun _ hc => Option.mem_some.mp hc ▸ h

end Numbers

section Values

variable {v w : Json} {m : String × Json} {items : List Json} {members : List (String × Json)} {level' : Nat}

-- A value is read back from its text, whatever follows.
def ReadsBack (v : Json) : Prop :=
  ∀ level depth fuel rest p, v.nesting < depth → ((v.prettyAt level).toList ++ rest).length < fuel →
    EndsNumber rest → Yields (readValue fuel depth ⟨(v.prettyAt level).toList ++ rest, p⟩) v.ordered rest

theorem toList_quote (s : String) : (quote s).toList = '"' :: (s.toList.flatMap escape ++ ['"']) := by
  simp [quote, quoteChars]

theorem isBlank_of_isDigit (h : isDigit x) : isBlank x = false := by
  simp only [isBlank, Bool.or_eq_false_iff, decide_eq_false_iff_not]
  refine ⟨⟨⟨?_, ?_⟩, ?_⟩, ?_⟩ <;> rintro rfl <;> cases h

theorem readValue_digit (h : isDigit x) : readValue (fuel + 1) depth ⟨x :: rest, p⟩ =
    readNumber false ⟨x :: rest, p⟩ >>= fun r => .ok (.num r.1, r.2) := by
  rw [readValue, skipBlanks_of_not_blank (isBlank_of_isDigit h)]
  dsimp only [Cursor.next?]
  split <;> try cases h
  rw [if_pos h]

theorem readsBack_null : ReadsBack .null := by
  intro level depth fuel rest p _ hf _
  obtain ⟨fuel, rfl⟩ := Nat.exists_eq_add_one.mpr (Nat.zero_lt_of_lt hf)
  have ht : (prettyAt level .null).toList = ['n', 'u', 'l', 'l'] := by simp [prettyAt]
  rw [ht, List.cons_append, readValue, skipBlanks_of_not_blank rfl]
  exact .ok

theorem readsBack_bool (b : Bool) : ReadsBack (.bool b) := by
  intro level depth fuel rest p _ hf _
  obtain ⟨fuel, rfl⟩ := Nat.exists_eq_add_one.mpr (Nat.zero_lt_of_lt hf)
  cases b with
  | true =>
    have ht : (prettyAt level (.bool true)).toList = ['t', 'r', 'u', 'e'] := by simp [prettyAt]
    rw [ht, List.cons_append, readValue, skipBlanks_of_not_blank rfl]
    exact .ok
  | false =>
    have ht : (prettyAt level (.bool false)).toList = ['f', 'a', 'l', 's', 'e'] := by simp [prettyAt]
    rw [ht, List.cons_append, readValue, skipBlanks_of_not_blank rfl]
    exact .ok

theorem readsBack_str (s : String) : ReadsBack (.str s) := by
  intro level depth fuel rest p _ hf _
  obtain ⟨fuel, rfl⟩ := Nat.exists_eq_add_one.mpr (Nat.zero_lt_of_lt hf)
  simp only [prettyAt, toList_quote, List.cons_append, List.append_assoc, List.nil_append] at hf ⊢
  have hl := length_le_flatMap_escape s.toList
  have hs : s.toList.length < fuel := by
    simp only [List.length_cons, List.length_append] at hf
    omega
  rw [readValue, skipBlanks_of_not_blank rfl]
  exact Yields.bind (readString_quoted hs []) fun _ => String.ofList_toList ▸ .ok

theorem readsBack_int {n : Int} (h : Fits64 n) : ReadsBack (.num (.int n)) := by
  intro level depth fuel rest p _ hf he
  obtain ⟨fuel, rfl⟩ := Nat.exists_eq_add_one.mpr (Nat.zero_lt_of_lt hf)
  obtain ⟨hl, hu⟩ := h
  cases n with
  | ofNat n =>
    have ht : (prettyAt level (.num (.int (.ofNat n)))).toList = Nat.toDigits 10 n := Nat.toList_repr
    have ⟨x, ds, hx⟩ := List.exists_cons_of_ne_nil (Nat.toDigits_ne_nil (n := n) (b := 10))
    have hd : isDigit x := isDigit_of_mem_toDigits (hx ▸ List.mem_cons_self)
    rw [ht, hx, List.cons_append, readValue_digit hd, ← List.cons_append, ← hx]
    exact Yields.bind (readNumber_nat (Int.ofNat_lt.mp hu) he) fun _ => .ok
  | negSucc n =>
    have ht : (prettyAt level (.num (.int (.negSucc n)))).toList = '-' :: Nat.toDigits 10 (n + 1) := by
      have hs : prettyAt level (.num (.int (.negSucc n))) = "-" ++ (n + 1).repr := rfl
      rw [hs, String.toList_append, Nat.toList_repr]
      rfl
    rw [ht, List.cons_append, readValue, skipBlanks_of_not_blank rfl]
    exact Yields.bind (readNumber_neg (n := n + 1) (by omega) (by omega) he) fun _ => .ok

-- A text begins with what is no blank and closes nothing.
theorem Exact.exists_cons_pretty (h : Exact v) (level : Nat) :
    ∃ x more, ((v.prettyAt level).toList = x :: more) ∧ (isBlank x = false) ∧ (x ≠ ']') := by
  cases h with
  | null => exact ⟨'n', _, by simp [prettyAt]; rfl, rfl, by decide⟩
  | @bool b =>
    cases b with
    | true => exact ⟨'t', _, by simp [prettyAt]; rfl, rfl, by decide⟩
    | false => exact ⟨'f', _, by simp [prettyAt]; rfl, rfl, by decide⟩
  | str => exact ⟨'"', _, toList_quote _, rfl, by decide⟩
  | @int n =>
    cases n with
    | negSucc n => exact ⟨'-', _, String.toList_append, rfl, by decide⟩
    | ofNat n =>
      have ⟨x, ds, hx⟩ := List.exists_cons_of_ne_nil (Nat.toDigits_ne_nil (n := n) (b := 10))
      have hd : isDigit x := isDigit_of_mem_toDigits (hx ▸ List.mem_cons_self)
      refine ⟨x, ds, Nat.toList_repr.trans hx, isBlank_of_isDigit hd, ?_⟩
      rintro rfl
      cases hd
  | @arr items => cases items <;> exact ⟨'[', _, by simp [prettyAt]; rfl, rfl, by decide⟩
  | @obj members => cases members <;> exact ⟨'\x7b', _, by simp [prettyAt]; rfl, rfl, by decide⟩

section Lines

variable {line : Nat → α → List Char} {close : Char} {as : List α}

-- What stands behind a line between brackets: the other lines, and the closing bracket.
def behind (line : Nat → α → List Char) (close : Char) (level : Nat) (rest : List Char) : List α → List Char
  | [] => (newline level).toList ++ close :: rest
  | a :: as => ',' :: (line (level + 1) a ++ behind line close level rest as)

theorem endsNumber_behind : EndsNumber (behind line close level rest as) := by
  cases as with
  | nil => simpa [behind, newline] using endsNumber_cons (c := '\n') (by decide)
  | cons => exact endsNumber_cons (c := ',') (by decide)

end Lines

section Items

def itemLine (level : Nat) (v : Json) : List Char :=
  (newline level).toList ++ (v.prettyAt level).toList

theorem toList_prettyItems (v : Json) (items : List Json) :
    (prettyItems (level + 1) (v :: items)).toList ++ ((newline level).toList ++ ']' :: rest) =
      itemLine (level + 1) v ++ behind itemLine ']' level rest items := by
  induction items generalizing v with
  | nil => simp [prettyItems, itemLine, behind]
  | cons w items hi => simp [prettyItems, itemLine, behind, hi]

theorem toList_pretty_arr (v : Json) (items : List Json) : (prettyAt level (.arr (v :: items))).toList ++ rest =
    '[' :: (itemLine (level + 1) v ++ behind itemLine ']' level rest items) := by
  simp [prettyAt, ← toList_prettyItems]

-- Behind the blanks of its line, an item is read, and it is not taken for the closing bracket.
theorem ReadsBack.line (hr : ReadsBack v) (he : Exact v) (hn : v.nesting < depth)
    (hf : (itemLine level v ++ rest).length ≤ fuel) (hs : EndsNumber rest) (p : Position) :
    ∃ x more p', (skipBlanks ⟨itemLine level v ++ rest, p⟩ = ⟨x :: more, p'⟩) ∧ (x ≠ ']') ∧
      (Yields (readValue fuel depth ⟨x :: more, p'⟩) v.ordered rest) := by
  have ⟨x, ds, hx, hb, hc⟩ := he.exists_cons_pretty level
  have ⟨p', hp⟩ : ∃ p', skipBlanks ⟨(newline level).toList ++ x :: (ds ++ rest), p⟩ = _ := skipBlanks_newline level hb p
  have hl := length_newline_pos level
  have hv := hr level depth fuel rest p' hn (by simp only [itemLine, List.length_append] at hf ⊢; omega) hs
  rw [itemLine, hx, List.append_assoc, List.cons_append, hp]
  exact ⟨x, _, p', rfl, hc, by simpa [hx] using hv⟩

theorem readItems_close {first : Bool} {acc : List Json} (hp : skipBlanks ⟨s, p⟩ = ⟨']' :: rest, p'⟩) :
    Yields (readItems (fuel + 1) depth first acc ⟨s, p⟩) acc.reverse rest := by
  rw [readItems, hp]
  exact .ok

theorem readItems_first {acc : List Json} (hp : skipBlanks ⟨s, p⟩ = ⟨x :: more, p'⟩) (hx : x ≠ ']') :
    readItems (fuel + 1) depth true acc ⟨s, p⟩ =
      readValue fuel depth ⟨x :: more, p'⟩ >>= fun r => readItems fuel depth false (r.1 :: acc) r.2 := by
  rw [readItems, hp, next?_cons]
  exact if_neg hx

theorem readItems_next {acc : List Json} (hp : skipBlanks ⟨s, p.advance ','⟩ = ⟨x :: more, p'⟩) (hx : x ≠ ']') :
    readItems (fuel + 1) depth false acc ⟨',' :: s, p⟩ =
      readValue fuel depth ⟨x :: more, p'⟩ >>= fun r => readItems fuel depth false (r.1 :: acc) r.2 := by
  rw [readItems, skipBlanks_of_not_blank rfl, next?_cons]
  dsimp only
  rw [if_neg (by decide), if_neg (by decide), if_pos rfl, hp, next?_cons]
  split
  case h_1 => contradiction
  case h_2 hc => cases hc; contradiction
  case h_3 => rfl

theorem readItems_behind (he : ∀ x ∈ items, Exact x) (hr : ∀ x ∈ items, ReadsBack x)
    (hn : nestingItems items < depth) (hf : (behind itemLine ']' level rest items).length ≤ fuel) (acc : List Json) :
    Yields (readItems (fuel + 1) depth false acc ⟨behind itemLine ']' level rest items, p⟩)
      (acc.reverse ++ orderedItems items) rest := by
  induction items generalizing fuel acc p with
  | nil =>
    obtain ⟨_, hp⟩ : ∃ p', skipBlanks ⟨(newline level).toList ++ ']' :: rest, p⟩ = ⟨']' :: rest, p'⟩ :=
      skipBlanks_newline level rfl p
    rw [orderedItems, List.append_nil]
    exact readItems_close hp
  | cons v items hi =>
    rw [nestingItems] at hn
    rw [behind, List.length_cons] at hf
    obtain ⟨fuel, rfl⟩ := Nat.exists_eq_add_one.mpr (Nat.zero_lt_of_lt hf)
    obtain ⟨x, more, p', hp, hx, hv⟩ := (hr v List.mem_cons_self).line (he v List.mem_cons_self)
      (Nat.lt_of_le_of_lt (Nat.le_max_left ..) hn) (Nat.le_of_succ_le hf) endsNumber_behind (p.advance ',')
    have hl : (behind itemLine ']' level rest items).length ≤ fuel := by
      rw [List.length_append] at hf
      omega
    have hi {p : Position} := hi (p := p) (fun x hx => he x (List.mem_cons_of_mem v hx))
      (fun x hx => hr x (List.mem_cons_of_mem v hx)) (Nat.lt_of_le_of_lt (Nat.le_max_right ..) hn) hl (v.ordered :: acc)
    rw [behind, readItems_next hp hx]
    exact Yields.bind hv fun _ => by simpa [orderedItems] using hi

theorem readValue_bracket (hr : ∀ p, Yields (readItems fuel (depth + 1) true [] ⟨s, p⟩) items rest) :
    Yields (readValue (fuel + 1) (depth + 2) ⟨'[' :: s, p⟩) (.arr items) rest := by
  rw [readValue, skipBlanks_of_not_blank rfl]
  exact Yields.bind (hr _) fun _ => .ok

theorem readsBack_arr (he : ∀ x ∈ items, Exact x) (hr : ∀ x ∈ items, ReadsBack x) : ReadsBack (.arr items) := by
  intro level depth fuel rest p hn hf _
  rw [nesting] at hn
  obtain ⟨depth, rfl⟩ : ∃ n, depth = n + 2 := ⟨depth - 2, by omega⟩
  cases items with
  | nil =>
    have ht : (prettyAt level (.arr [])).toList = ['[', ']'] := by simp [prettyAt]
    rw [ht] at hf ⊢
    obtain ⟨fuel, rfl⟩ : ∃ n, fuel = n + 2 := ⟨fuel - 2, by simp at hf; omega⟩
    exact readValue_bracket fun _ => readItems_close (skipBlanks_of_not_blank rfl)
  | cons v items =>
    rw [toList_pretty_arr] at hf ⊢
    rw [nestingItems] at hn
    obtain ⟨fuel, rfl⟩ : ∃ n, fuel = n + 3 := ⟨fuel - 3, by simp [itemLine, newline] at hf; omega⟩
    -- The first item has no comma in front; all others have one.
    refine readValue_bracket fun p => ?_
    have hs : EndsNumber (behind itemLine ']' level rest items) := endsNumber_behind
    have hd : v.nesting < depth + 1 := by omega
    have hl : (itemLine (level + 1) v ++ behind itemLine ']' level rest items).length ≤ fuel + 1 := by
      rw [List.length_cons] at hf
      omega
    have hm : (behind itemLine ']' level rest items).length ≤ fuel := by
      simp only [itemLine, List.length_append] at hl
      have hn := length_newline_pos (level + 1)
      omega
    obtain ⟨x, more, p', hp, hx, hv⟩ := (hr v List.mem_cons_self).line (he v List.mem_cons_self) hd hl hs p
    rw [readItems_first hp hx]
    refine Yields.bind hv fun p => ?_
    exact readItems_behind (fun x hx => he x (List.mem_cons_of_mem v hx)) (fun x hx => hr x (List.mem_cons_of_mem v hx))
      (by omega) hm [v.ordered]

end Items

section Members

def memberLine (level : Nat) (m : String × Json) : List Char :=
  (newline level).toList ++ (quote m.1).toList ++ ':' :: ' ' :: (m.2.prettyAt level).toList

theorem toList_prettyMembers (m : String × Json) (members : List (String × Json)) :
    (prettyMembers (level + 1) (m :: members)).toList ++ ((newline level).toList ++ '\x7d' :: rest) =
      memberLine (level + 1) m ++ behind memberLine '\x7d' level rest members := by
  induction members generalizing m with
  | nil => simp [prettyMembers, memberLine, behind]
  | cons w members hi => simp [prettyMembers, memberLine, behind, hi]

theorem toList_pretty_obj (m : String × Json) (members : List (String × Json)) :
    (prettyAt level (.obj (m :: members))).toList ++ rest =
      '\x7b' :: (memberLine (level + 1) m ++ behind memberLine '\x7d' level rest members) := by
  simp [prettyAt, ← toList_prettyMembers]

theorem readValue_blank (hf : 0 < fuel) :
    readValue fuel depth ⟨' ' :: s, p⟩ = readValue fuel depth ⟨s, p.advance ' '⟩ := by
  obtain ⟨fuel, rfl⟩ := Nat.exists_eq_add_one.mpr hf
  have hs : skipBlanks ⟨' ' :: s, p⟩ = skipBlanks ⟨s, p.advance ' '⟩ := rfl
  rw [readValue, readValue, hs]

theorem readMember_colon {k : String} (hf : 0 < fuel)
    (hk : ∀ p, Yields (readString fuel [] ⟨s, p⟩) k (':' :: ' ' :: more))
    (hv : ∀ p, Yields (readValue fuel depth ⟨more, p⟩) v rest) :
    Yields (readMember (fuel + 1) depth ⟨s, p⟩) (k, v) rest := by
  rw [readMember]
  refine Yields.bind (hk p) fun p => ?_
  dsimp only
  rw [skipBlanks_of_not_blank rfl]
  have hc (p : Position) : Yields (readValue fuel depth ⟨' ' :: more, p⟩) v rest := by
    rw [readValue_blank hf]
    exact hv _
  exact Yields.bind (hc _) fun _ => .ok

-- Behind the blanks of its line, a member is read.
theorem ReadsBack.memberLine (hr : ReadsBack m.2) (hn : m.2.nesting < depth)
    (hf : (memberLine level m ++ rest).length ≤ fuel + 1) (hs : EndsNumber rest) (p : Position) :
    ∃ more p', (skipBlanks ⟨memberLine level m ++ rest, p⟩ = ⟨'"' :: more, p'⟩) ∧
      (∀ p, Yields (readMember (fuel + 1) depth ⟨more, p⟩) (m.1, m.2.ordered) rest) := by
  let value := (m.2.prettyAt level).toList ++ rest
  let more := m.1.toList.flatMap escape ++ '"' :: ':' :: ' ' :: value
  have hm : Json.memberLine level m ++ rest = (newline level).toList ++ '"' :: more := by
    simp [Json.memberLine, toList_quote, more, value]
  have hl := length_newline_pos level
  have he := length_le_flatMap_escape m.1.toList
  simp only [hm, more, List.length_append, List.length_cons] at hf
  have hk (p : Position) : Yields (readString fuel [] ⟨more, p⟩) m.1 (':' :: ' ' :: value) := by
    simpa using readString_quoted (s := m.1.toList) (by omega) []
  have hv (p : Position) : Yields (readValue fuel depth ⟨value, p⟩) m.2.ordered rest :=
    hr level depth fuel rest p hn (show value.length < fuel by omega) hs
  have ⟨p', hp⟩ : ∃ p', skipBlanks ⟨(newline level).toList ++ '"' :: more, p⟩ = _ := skipBlanks_newline level rfl p
  exact ⟨more, p', hm ▸ hp, fun p => readMember_colon (by omega) hk hv⟩

variable {acc : List (String × Json)}

theorem readMembers_close {first : Bool} (hp : skipBlanks ⟨s, p⟩ = ⟨'\x7d' :: rest, p'⟩) :
    Yields (readMembers (fuel + 1) depth first acc ⟨s, p⟩) acc rest := by
  rw [readMembers, hp]
  exact .ok

theorem readMembers_first (hp : skipBlanks ⟨s, p⟩ = ⟨'"' :: more, p'⟩) :
    readMembers (fuel + 1) depth true acc ⟨s, p⟩ = readMember fuel depth ⟨more, p'.advance '"'⟩ >>= fun r =>
      readMembers fuel depth false (Keyed.put r.1.1 r.1.2 acc) r.2 := by
  rw [readMembers, hp]
  rfl

theorem readMembers_next (hp : skipBlanks ⟨s, p.advance ','⟩ = ⟨'"' :: more, p'⟩) :
    readMembers (fuel + 1) depth false acc ⟨',' :: s, p⟩ = readMember fuel depth ⟨more, p'.advance '"'⟩ >>= fun r =>
      readMembers fuel depth false (Keyed.put r.1.1 r.1.2 acc) r.2 := by
  rw [readMembers, skipBlanks_of_not_blank rfl, next?_cons]
  dsimp only
  rw [if_neg (by decide), if_neg (by decide), if_pos rfl, hp, next?_cons]
  rfl

-- The members in front of the others, each put to its place.
def putAll (acc members : List (String × Json)) : List (String × Json) :=
  members.foldl (fun entries e => Keyed.put e.1 e.2 entries) acc

theorem readMembers_behind (hr : ∀ m ∈ members, ReadsBack m.2) (hn : nestingMembers members < depth)
    (hf : (behind memberLine '\x7d' level rest members).length ≤ fuel) (acc : List (String × Json)) :
    Yields (readMembers (fuel + 1) depth false acc ⟨behind memberLine '\x7d' level rest members, p⟩)
      (putAll acc (orderedMembers members)) rest := by
  induction members generalizing fuel acc p with
  | nil =>
    obtain ⟨_, hp⟩ : ∃ p', skipBlanks ⟨(newline level).toList ++ '\x7d' :: rest, p⟩ = ⟨'\x7d' :: rest, p'⟩ :=
      skipBlanks_newline level rfl p
    exact readMembers_close hp
  | cons m members hi =>
    rw [nestingMembers] at hn
    rw [behind, List.length_cons] at hf
    obtain ⟨fuel, rfl⟩ := Nat.exists_eq_add_one.mpr (Nat.zero_lt_of_lt hf)
    obtain ⟨more, p', hp, hm⟩ := (hr m List.mem_cons_self).memberLine (Nat.lt_of_le_of_lt (Nat.le_max_left ..) hn)
      (Nat.le_of_lt hf) endsNumber_behind (p.advance ',')
    have hl : (behind memberLine '\x7d' level rest members).length ≤ fuel := by
      rw [List.length_append] at hf
      omega
    have hi {p : Position} (acc) := hi (p := p) (fun x hx => hr x (List.mem_cons_of_mem m hx))
      (Nat.lt_of_le_of_lt (Nat.le_max_right ..) hn) hl acc
    rw [behind, readMembers_next hp]
    exact Yields.bind (hm _) fun _ => hi _

theorem readValue_brace (hr : ∀ p, Yields (readMembers fuel (depth + 1) true [] ⟨s, p⟩) members rest) :
    Yields (readValue (fuel + 1) (depth + 2) ⟨'\x7b' :: s, p⟩) (.obj members) rest := by
  rw [readValue, skipBlanks_of_not_blank rfl]
  exact Yields.bind (hr _) fun _ => .ok

theorem readsBack_obj (hr : ∀ m ∈ members, ReadsBack m.2) : ReadsBack (.obj members) := by
  intro level depth fuel rest p hn hf _
  rw [nesting] at hn
  obtain ⟨depth, rfl⟩ : ∃ n, depth = n + 2 := ⟨depth - 2, by omega⟩
  cases members with
  | nil =>
    have ht : (prettyAt level (.obj [])).toList = ['\x7b', '\x7d'] := by simp [prettyAt]
    rw [ht] at hf ⊢
    obtain ⟨fuel, rfl⟩ : ∃ n, fuel = n + 2 := ⟨fuel - 2, by simp at hf; omega⟩
    exact readValue_brace fun _ => readMembers_close (skipBlanks_of_not_blank rfl)
  | cons m members =>
    rw [toList_pretty_obj] at hf ⊢
    rw [nestingMembers] at hn
    obtain ⟨fuel, rfl⟩ : ∃ n, fuel = n + 3 := ⟨fuel - 3, by simp [memberLine, newline] at hf; omega⟩
    -- As with items: only the first member has no comma in front.
    refine readValue_brace fun p => ?_
    have hl : (memberLine (level + 1) m ++ behind memberLine '\x7d' level rest members).length ≤ fuel + 1 := by
      rw [List.length_cons] at hf
      omega
    have hm : (behind memberLine '\x7d' level rest members).length ≤ fuel := by
      simp only [memberLine, List.length_append] at hl
      have hn := length_newline_pos (level + 1)
      omega
    have hd : m.2.nesting < depth + 1 := by omega
    obtain ⟨more, p', hp, hv⟩ := (hr m List.mem_cons_self).memberLine hd hl endsNumber_behind p
    rw [readMembers_first hp]
    refine Yields.bind (hv _) fun p => ?_
    exact readMembers_behind (fun x hx => hr x (List.mem_cons_of_mem m hx)) (by omega) hm _

end Members

theorem Exact.readsBack (h : Exact v) : ReadsBack v := by
  induction h with
  | null => exact readsBack_null
  | bool => exact readsBack_bool _
  | int hf => exact readsBack_int hf
  | str => exact readsBack_str _
  | arr he hi => exact readsBack_arr he hi
  | obj _ hi => exact readsBack_obj hi

theorem skipBlanks_blanks {blanks : List Char} (hb : ∀ c ∈ blanks, isBlank c) (p : Position) :
    (skipBlanks ⟨blanks, p⟩).rest = [] := by
  induction blanks generalizing p with
  | nil => rfl
  | cons c blanks hi =>
    have hc : isBlank c := hb c List.mem_cons_self
    have hi := hi (fun c hc => hb c (List.mem_cons_of_mem _ hc)) (p.advance c)
    simpa [skipBlanks, Cursor.skipWhile, Cursor.skipWhile.go, hc] using hi

theorem endsNumber_blanks {blanks : List Char} (hb : ∀ c ∈ blanks, isBlank c) : EndsNumber blanks := by
  intro c hc
  have hc := hb c (List.mem_of_mem_head? hc)
  simp only [isBlank, Bool.or_eq_true, decide_eq_true_eq] at hc
  rcases hc with ((rfl | rfl) | rfl) | rfl <;> decide

-- A text of at most the depth that is read stands for its value, also with blanks behind it.
theorem Exact.parse_pretty_append (h : Exact v) (hn : v.nesting < recursionLimit) (blanks : String)
    (hb : ∀ c ∈ blanks.toList, isBlank c) : parse (v.pretty ++ blanks) = .ok v.ordered := by
  have hl : (v.pretty.toList ++ blanks.toList).length < 2 * (v.pretty ++ blanks).length + 2 := by
    rw [← String.toList_append, String.length_toList]
    omega
  have ⟨p, hr⟩ := h.readsBack 0 recursionLimit _ _ (Cursor.ofString (v.pretty ++ blanks)).position hn hl
    (endsNumber_blanks hb)
  have hc : Cursor.ofString (v.pretty ++ blanks) =
      ⟨(v.prettyAt 0).toList ++ blanks.toList, (Cursor.ofString (v.pretty ++ blanks)).position⟩ := by
    rw [pretty, ← String.toList_append]
    rfl
  rw [parse, parseWithin, hc, hr]
  simp [bind, Except.bind, skipBlanks_blanks hb]

theorem Exact.parse_pretty (h : Exact v) (hn : v.nesting < recursionLimit) : parse v.pretty = .ok v.ordered := by
  simpa using h.parse_pretty_append hn "" (by simp)

end Values

end ModelForge.Json
