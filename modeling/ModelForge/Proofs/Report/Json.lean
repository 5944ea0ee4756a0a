import ModelForge.Proofs.Json.RoundTrip
import ModelForge.Proofs.Language
import ModelForge.Report.Format

namespace ModelForge

namespace Json

variable {α : Type} {n : Nat} {ms : List (String × Json)} {xs : List Json}

theorem find?_orderedMembers (name : String) (ms : List (String × Json)) :
    Keyed.find? name (orderedMembers ms) = (Keyed.find? name ms).map ordered := by
  induction ms with
  | nil => rfl
  | cons m ms hi =>
    by_cases hn : name = m.1
    case pos => simp [orderedMembers, Keyed.find?, hn]
    case neg => simp [orderedMembers, Keyed.find?, hn, hi]

-- In whatever order members are written, they are found by their names.
theorem member?_ordered (h : (Keyed.keys ms).Nodup) (name : String) :
    (obj ms).ordered.member? name = (Keyed.find? name ms).map ordered := by
  have hk : (Keyed.keys (orderedMembers ms)).Nodup := by
    simpa [Keyed.keys, orderedMembers_eq, Function.comp_def] using h
  rw [ordered, member?, Keyed.find?_ofList hk, find?_orderedMembers]

theorem nesting_arr_le (h : ∀ x ∈ xs, x.nesting ≤ n) : (arr xs).nesting ≤ n + 1 := by
  rw [nesting]
  induction xs with
  | nil => simp [nestingItems]
  | cons x xs hi =>
    have hx := h x List.mem_cons_self
    have hs := hi fun x hx => h x (List.mem_cons_of_mem _ hx)
    rw [nestingItems]
    omega

theorem nesting_obj_le (h : ∀ m ∈ ms, m.2.nesting ≤ n) : (obj ms).nesting ≤ n + 1 := by
  rw [nesting]
  induction ms with
  | nil => simp [nestingMembers]
  | cons m ms hi =>
    have hm := h m List.mem_cons_self
    have hs := hi fun m hm => h m (List.mem_cons_of_mem _ hm)
    rw [nestingMembers]
    omega

@[simp]
theorem ordered_str (s : String) : (str s).ordered = str s := rfl

@[simp]
theorem ordered_num (n : Number) : (num n).ordered = num n := rfl

@[simp]
theorem nesting_str (s : String) : (str s).nesting = 0 := rfl

@[simp]
theorem nesting_num (n : Number) : (num n).nesting = 0 := rfl

@[simp]
theorem asString?_str (s : String) : (str s).asString? = some s := rfl

@[simp]
theorem asNat?_natCast (n : Nat) : (num (.int n)).asNat? = some n := by
  simp [asNat?, asInt?]

theorem exact_natCast (h : n < Nat.pow 2 64) : Exact (.num (.int n)) :=
  .int ⟨by omega, Int.ofNat_lt.mpr h⟩

-- The text is that of one value, and the value tells what was written.
def Decodes (text : String) (read? : Json → Option α) (a : α) : Prop :=
  ∃ v, (Json.parse text = .ok v) ∧ (read? v = some a)

-- So a text stands for one thing at most.
theorem Decodes.unique {text : String} {read? : Json → Option α} {a a' : α} (h : Decodes text read? a)
    (h' : Decodes text read? a') : a = a' := by
  obtain ⟨v, hv, ha⟩ := h
  obtain ⟨v', hv', ha'⟩ := h'
  obtain rfl : v = v' := Except.ok.inj (hv.symm.trans hv')
  exact Option.some.inj (ha.symm.trans ha')

-- What is written as JSON is read back from it, the members of objects standing in any order.
structure Recovers (n : Nat) (write : α → Json) (read? : Json → Option α) (a : α) : Prop where
  exact   : (write a).Exact
  nesting : (write a).nesting ≤ n
  read    : read? (write a).ordered = some a

namespace Recovers

variable {write : α → Json} {read? : Json → Option α} {a : α} {as : List α}

-- Lists are read back if their items are.
theorem list (h : ∀ a ∈ as, Recovers n write read? a) :
    Recovers (n + 1) (fun as => .arr (as.map write)) (fun j => j.asArray?.bind (·.mapM read?)) as where
  exact := .arr (List.forall_mem_map.mpr fun a ha => (h a ha).exact)
  nesting := nesting_arr_le (List.forall_mem_map.mpr fun a ha => (h a ha).nesting)
  read := by
    rw [ordered, orderedItems_eq, asArray?, Option.bind_some]
    induction as with
    | nil => rfl
    | cons a as hi =>
      have ha := (h a List.mem_cons_self).read
      have hi := hi fun a ha => h a (List.mem_cons_of_mem _ ha)
      simp only [List.map_cons, List.mapM_cons, ha, hi, Option.bind_eq_bind, Option.bind_some, Option.pure_def]

-- An object is read back if this can be done by looking up its members, whose names are different.
theorem members (hw : write a = .obj ms) (hm : ∀ m ∈ ms, (m.2.Exact) ∧ (m.2.nesting ≤ n))
    (hk : (Keyed.keys ms).Nodup)
    (hr : ∀ j, (∀ name, j.member? name = (Keyed.find? name ms).map ordered) → read? j = some a) :
    Recovers (n + 1) write read? a where
  exact := hw ▸ .obj fun m h => (hm m h).left
  nesting := hw ▸ nesting_obj_le fun m h => (hm m h).right
  read := hw ▸ hr _ (member?_ordered hk)

theorem decodes (h : Recovers n write read? a) (hn : n < recursionLimit) (blanks : String)
    (hb : ∀ c ∈ blanks.toList, isBlank c) : Decodes ((write a).pretty ++ blanks) read? a :=
  ⟨_, h.exact.parse_pretty_append (Nat.lt_of_le_of_lt h.nesting hn) blanks hb, h.read⟩

end Recovers

end Json

open Json

namespace Violation

theorem recovers (v : Violation) : Recovers 1 json ofJson? v := by
  refine .members rfl (by simp [Exact.str]) (by simp [Keyed.keys]) fun j hj => ?_
  simp [ofJson?, hj, Keyed.find?]

theorem recovers_list (vs : List Violation) : Recovers 2 (fun vs => .arr (vs.map json)) listOfJson? vs :=
  .list fun v _ => v.recovers

end Violation

namespace Verdict

-- No violations and an empty list of them are not taken for each other.
theorem recovers (v : Verdict) : Recovers 3 json ofJson? v := by
  cases v with
  | valid =>
    refine .members rfl (by simp [Exact.str]) (by simp [Keyed.keys]) fun j hj => ?_
    simp [ofJson?, hj, Keyed.find?]
  | invalid vs =>
    have h := Violation.recovers_list vs
    refine .members rfl (by simp [Exact.str, h.exact, h.nesting]) (by simp [Keyed.keys]) fun j hj => ?_
    simp [ofJson?, hj, Keyed.find?, h.read]

end Verdict

theorem WrittenFile.recovers {f : WrittenFile} (h : f.lines < Nat.pow 2 64) : Recovers 1 json ofJson? f := by
  refine .members rfl (by simp [Exact.str, exact_natCast h]) (by simp [Keyed.keys]) fun j hj => ?_
  simp [ofJson?, hj, Keyed.find?, Language.ofToken?_canonicalName]

theorem FailureKind.ofName?_name (k : FailureKind) : ofName? k.name = some k := by
  cases k <;> decide

namespace Failure

-- A list that is left out is empty.
theorem recovers (f : Failure) : Recovers 3 json ofJson? f := by
  have h := Violation.recovers_list f.violations
  by_cases hv : f.violations = []
  case pos =>
    have hw : f.json = .obj [("kind", .str f.kind.name), ("message", .str f.message)] := by simp [json, hv]
    refine .members hw (by simp [Exact.str]) (by simp [Keyed.keys]) fun j hj => ?_
    simp [ofJson?, hj, Keyed.find?, FailureKind.ofName?_name, ← hv]
  case neg =>
    have hw : f.json = .obj [("kind", .str f.kind.name), ("message", .str f.message),
        ("violations", .arr (f.violations.map Violation.json))] := by simp [json, hv]
    refine .members hw (by simp [Exact.str, h.exact, h.nesting]) (by simp [Keyed.keys]) fun j hj => ?_
    simp [ofJson?, hj, Keyed.find?, FailureKind.ofName?_name, h.read]

end Failure

-- The counts that a report can hold have 64 bits.
structure Report.Countable (r : Report) : Prop where
  total  : r.total < Nat.pow 2 64
  passed : r.passed < Nat.pow 2 64
  failed : r.failed < Nat.pow 2 64
  lines  : ∀ item ∈ r.items, ∀ file, (item.outcome = .generated file) → file.lines < Nat.pow 2 64

namespace Item

-- The members of an outcome stand beside the input, whose name none of them has.
theorem recovers {item : Item} (h : ∀ file, (item.outcome = .generated file) → file.lines < Nat.pow 2 64) :
    Recovers 4 json ofJson? item := by
  obtain ⟨input, outcome⟩ := item
  cases outcome with
  | validated verdict =>
    have hv := verdict.recovers
    have hw : json ⟨input, .validated verdict⟩ =
        .obj [("input", .str input.text), ("outcome", .str "validated"), ("result", verdict.json)] := rfl
    refine .members hw (by simp [Exact.str, hv.exact, hv.nesting]) (by simp [Keyed.keys]) fun j hj => ?_
    simp [ofJson?, Outcome.ofJson?, hj, Keyed.find?, hv.read]
  | generated file =>
    have hf := WrittenFile.recovers (h file rfl)
    have hn : file.json.nesting ≤ 3 := Nat.le_trans hf.nesting (by decide)
    have hw : json ⟨input, .generated file⟩ =
        .obj [("input", .str input.text), ("outcome", .str "generated"), ("file", file.json)] := rfl
    refine .members hw (by simp [Exact.str, hf.exact, hn]) (by simp [Keyed.keys]) fun j hj => ?_
    simp [ofJson?, Outcome.ofJson?, hj, Keyed.find?, hf.read]
  | failed failure =>
    have hf := failure.recovers
    have hw : json ⟨input, .failed failure⟩ =
        .obj [("input", .str input.text), ("outcome", .str "failed"), ("failure", failure.json)] := rfl
    refine .members hw (by simp [Exact.str, hf.exact, hf.nesting]) (by simp [Keyed.keys]) fun j hj => ?_
    simp [ofJson?, Outcome.ofJson?, hj, Keyed.find?, hf.read]

end Item

namespace Report

variable {r : Report}

theorem recovers (h : r.Countable) : Recovers 6 json ofJson? r := by
  have hi : Recovers 5 (fun items => .arr (items.map Item.json)) _ r.items :=
    .list fun item hm => Item.recovers (h.lines item hm)
  obtain ⟨xs, ha, hx⟩ := Option.bind_eq_some_iff.mp hi.read
  refine .members rfl ?written (by simp [Keyed.keys]) fun j hj => ?_
  case written =>
    simp [Exact.str, exact_natCast h.total, exact_natCast h.passed, exact_natCast h.failed, hi.exact, hi.nesting]
  simp [ofJson?, hj, Keyed.find?, ha, hx]

theorem decodes_render (h : r.Countable) : Decodes (r.render .json) ofJson? r := by
  simpa [render] using (recovers h).decodes (by decide) "" (by simp)

end Report

namespace Rejection

theorem recovers_names (names : List String) :
    Recovers 1 (fun names => .arr (names.map .str)) (fun j => j.asArray?.bind (·.mapM asString?)) names :=
  .list fun _ _ => ⟨.str, Nat.le_refl 0, rfl⟩

theorem recovers (r : Rejection) : Recovers 2 json ofJson? r := by
  cases r with
  | pathNotFound path =>
    refine .members rfl (by simp [Exact.str]) (by simp [Keyed.keys]) fun j hj => ?_
    simp [ofJson?, hj, Keyed.find?]
  | missingLanguage supported =>
    have h := recovers_names supported
    refine .members rfl (by simp [Exact.str, h.exact, h.nesting]) (by simp [Keyed.keys]) fun j hj => ?_
    simp [ofJson?, supportedOfJson?, hj, Keyed.find?, h.read]
  | unsupportedLanguage token supported =>
    have h := recovers_names supported
    refine .members rfl (by simp [Exact.str, h.exact, h.nesting]) (by simp [Keyed.keys]) fun j hj => ?_
    simp [ofJson?, supportedOfJson?, hj, Keyed.find?, h.read]

-- In this format, too, the final line feed is written.
theorem decodes_render (r : Rejection) : Decodes (r.render .json) ofJson? r :=
  (recovers r).decodes (by decide) "\n" (by simp [isBlank])

end Rejection

-- No text of a report in JSON, and none of a rejection, loses a part of what it was written for.
theorem ReportFormat.json_lossless :
    (∀ r : Report, r.Countable → Decodes (r.render .json) Report.ofJson? r) ∧
    (∀ r : Rejection, Decodes (r.render .json) Rejection.ofJson? r) ∧
    (∀ r r' : Report, r.Countable → r'.Countable → (r.render .json = r'.render .json) → (r = r')) ∧
    (∀ r r' : Rejection, (r.render .json = r'.render .json) → (r = r')) := by
  refine ⟨fun r => Report.decodes_render, Rejection.decodes_render, fun r r' h h' he => ?reports,
    fun r r' he => ?rejections⟩
  case reports =>
    have hd := Report.decodes_render h
    rw [he] at hd
    exact hd.unique (Report.decodes_render h')
  case rejections =>
    have hd := Rejection.decodes_render r
    rw [he] at hd
    exact hd.unique (Rejection.decodes_render r')

-- A report whose counts have nothing to do with its items.
def Report.mismatched : Report where
  input := ⟨"models \"new\""⟩
  total := Nat.pow 2 64 - 1
  passed := 7
  failed := 0
  items := [
    ⟨⟨"a.json"⟩, .validated .valid⟩,
    ⟨⟨"b\n.json"⟩, .validated (.invalid [])⟩,
    ⟨⟨"c.yaml"⟩, .validated (.invalid [⟨"/\t", "", "\\"⟩])⟩,
    ⟨⟨"d.yml"⟩, .generated ⟨⟨"out/D.cs"⟩, ⟨"D"⟩, .cSharp, Nat.pow 2 64 - 1⟩⟩,
    ⟨⟨"é.json"⟩, .failed ⟨.emissionFailed, "", []⟩⟩,
    ⟨⟨"f.json"⟩, .failed ⟨.invalidModel, "2", [⟨"", "/type", "no"⟩]⟩⟩]

theorem Report.mismatched_countable : mismatched.Countable where
  total := by decide
  passed := by decide
  failed := by decide
  lines := by simp [mismatched]

-- Another count makes another text.
theorem Report.mismatched_decodes :
    (mismatched.Countable) ∧ (Decodes (mismatched.render .json) ofJson? mismatched) ∧
      (mismatched.render .json ≠ { mismatched with passed := 8 }.render .json) := by
  have other : { mismatched with passed := 8 }.Countable := { mismatched_countable with passed := by decide }
  refine ⟨mismatched_countable, ReportFormat.json_lossless.left _ mismatched_countable, fun he => ?_⟩
  have hr := ReportFormat.json_lossless.right.right.left _ _ mismatched_countable other he
  cases congrArg Report.passed hr

end ModelForge
