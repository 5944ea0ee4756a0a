/-!
Lists of pairs in strictly increasing order of their keys: the form of a JSON object, of a
directory tree and of an environment. `put` keeps the order, `find?` reads one entry, and the
lemmas say what a `put` does to every look-up.
-/

namespace ModelForge.Keyed

variable {κ : Type u} {α : Type v} {β : Type w}

def find? [DecidableEq κ] (k : κ) : List (κ × α) → Option α
  | [] => none
  | (k', a) :: rest => if k = k' then some a else find? k rest

/-- Sets the value of a key, in place if it is there and else before the first greater key. -/
def put [DecidableEq κ] [LT κ] [DecidableLT κ] (k : κ) (a : α) : List (κ × α) → List (κ × α)
  | [] => [(k, a)]
  | (k', a') :: rest =>
    if k = k' then (k, a) :: rest
    else if k < k' then (k, a) :: (k', a') :: rest
    else (k', a') :: put k a rest

def erase [DecidableEq κ] (k : κ) (entries : List (κ × α)) : List (κ × α) :=
  entries.filter (·.1 ≠ k)

/-- Of two values for one key the later one stays. -/
def ofList [DecidableEq κ] [LT κ] [DecidableLT κ] (entries : List (κ × α)) : List (κ × α) :=
  entries.foldl (fun acc e => put e.1 e.2 acc) []

def keys (entries : List (κ × α)) : List κ := entries.map (·.1)

def values (entries : List (κ × α)) : List α := entries.map (·.2)

def contains [DecidableEq κ] (k : κ) (entries : List (κ × α)) : Bool := (find? k entries).isSome

def Sorted [LT κ] (entries : List (κ × α)) : Prop := entries.Pairwise (·.1 < ·.1)

section Lemmas

variable [DecidableEq κ] [LT κ] [DecidableLT κ]

@[simp]
theorem find?_put_self (k : κ) (a : α) (entries : List (κ × α)) : find? k (put k a entries) = some a := by
  induction entries with
  | nil => simp [put, find?]
  | cons e rest ih =>
    obtain ⟨k', a'⟩ := e
    by_cases h : k = k'
    · simp [put, find?, h]
    · by_cases h' : k < k' <;> simp [put, find?, h, h', ih]

@[simp]
theorem find?_put_of_ne {k k' : κ} (h : k' ≠ k) (a : α) (entries : List (κ × α)) :
    find? k' (put k a entries) = find? k' entries := by
  induction entries with
  | nil => simp [put, find?, h]
  | cons e rest ih =>
    obtain ⟨k'', a''⟩ := e
    by_cases h₁ : k = k''
    · subst h₁; simp [put, find?, h]
    · by_cases h₂ : k < k'' <;> by_cases h₃ : k' = k'' <;> simp_all [put, find?]

omit [LT κ] [DecidableLT κ] in
@[simp]
theorem find?_erase_self (k : κ) (entries : List (κ × α)) : find? k (erase k entries) = none := by
  induction entries with
  | nil => simp [erase, find?]
  | cons e rest ih =>
    obtain ⟨k', a'⟩ := e
    by_cases h : k' = k
    · simpa [erase, h] using ih
    · have h' : ¬k = k' := fun e => h e.symm
      simpa [erase, h, find?, h'] using ih

omit [LT κ] [DecidableLT κ] in
@[simp]
theorem find?_erase_of_ne {k k' : κ} (h : k' ≠ k) (entries : List (κ × α)) :
    find? k' (erase k entries) = find? k' entries := by
  induction entries with
  | nil => simp [erase, find?]
  | cons e rest ih =>
    obtain ⟨k'', a''⟩ := e
    by_cases h₁ : k'' = k
    · subst h₁; simpa [erase, find?, h] using ih
    · by_cases h₂ : k' = k''
      · simp [erase, find?, h₁, h₂]
      · simpa [erase, h₁, find?, h₂] using ih

end Lemmas

end ModelForge.Keyed
