import ModelForge.Json.Basic
import ModelForge.Proofs.Keyed

namespace ModelForge.Json

-- The integers that have 64 bits, with a sign or without one.
def Fits64 (n : Int) : Prop := (-Nat.pow 2 63 ≤ n) ∧ (n < Nat.pow 2 64)

-- Values without floating-point numbers.
inductive RealFree : Json → Prop
  | null : RealFree .null
  | bool : RealFree (.bool b)
  | int : RealFree (.num (.int n))
  | str : RealFree (.str s)
  | arr (items : ∀ x ∈ xs, RealFree x) : RealFree (.arr xs)
  | obj (values : ∀ m ∈ ms, RealFree m.2) : RealFree (.obj ms)

-- Values that can be the content of a document.
inductive Canonical : Json → Prop
  | null : Canonical .null
  | bool : Canonical (.bool b)
  | int (fits : Fits64 n) : Canonical (.num (.int n))
  | real : Canonical (.num (.real x))
  | str : Canonical (.str s)
  | arr (items : ∀ x ∈ xs, Canonical x) : Canonical (.arr xs)
  | obj (sorted : Keyed.Sorted ms) (values : ∀ m ∈ ms, Canonical m.2) : Canonical (.obj ms)

-- Values whose text says all about them, up to the order of members.
inductive Exact : Json → Prop
  | null : Exact .null
  | bool : Exact (.bool b)
  | int (fits : Fits64 n) : Exact (.num (.int n))
  | str : Exact (.str s)
  | arr (items : ∀ x ∈ xs, Exact x) : Exact (.arr xs)
  | obj (values : ∀ m ∈ ms, Exact m.2) : Exact (.obj ms)

mutual

-- The number of brackets on the longest way from the root to a leaf.
def nesting : Json → Nat
  | .arr items => nestingItems items + 1
  | .obj members => nestingMembers members + 1
  | _ => 0

def nestingItems : List Json → Nat
  | [] => 0
  | x :: xs => max (nesting x) (nestingItems xs)

def nestingMembers : List (String × Json) → Nat
  | [] => 0
  | (_, x) :: ms => max (nesting x) (nestingMembers ms)

end

mutual

-- The value with the members of its objects in the order of their names, the last one of each name.
def ordered : Json → Json
  | .arr items => .arr (orderedItems items)
  | .obj members => .obj (Keyed.ofList (orderedMembers members))
  | v => v

def orderedItems : List Json → List Json
  | [] => []
  | x :: xs => ordered x :: orderedItems xs

def orderedMembers : List (String × Json) → List (String × Json)
  | [] => []
  | (k, x) :: ms => (k, ordered x) :: orderedMembers ms

end

variable {v : Json}

theorem orderedItems_eq (items : List Json) : orderedItems items = items.map ordered := by
  induction items with
  | nil => rfl
  | cons _ _ hi => rw [orderedItems, hi, List.map_cons]

theorem orderedMembers_eq (members : List (String × Json)) :
    orderedMembers members = members.map fun m => (m.1, m.2.ordered) := by
  induction members with
  | nil => rfl
  | cons _ _ hi => rw [orderedMembers, hi, List.map_cons]

namespace Canonical

theorem ordered_eq (h : Canonical v) : v.ordered = v := by
  induction h with
  | null | bool | int | real | str => rfl
  | arr _ hi =>
    rw [ordered, orderedItems_eq, List.map_congr_left hi, List.map_id']
  | obj hs _ hi =>
    have he := List.map_congr_left (g := id) fun m hm => congrArg (Prod.mk m.1) (hi m hm)
    rw [ordered, orderedMembers_eq, he, List.map_id, Keyed.ofList_of_sorted hs]

theorem exact (h : Canonical v) (hr : RealFree v) : Exact v := by
  induction h with
  | null => exact .null
  | bool => exact .bool
  | int hf => exact .int hf
  | real => cases hr
  | str => exact .str
  | arr _ hi =>
    have .arr hr := hr
    exact .arr fun x hx => hi x hx (hr x hx)
  | obj _ _ hi =>
    have .obj hr := hr
    exact .obj fun m hm => hi m hm (hr m hm)

end Canonical

end ModelForge.Json
