import ModelForge.Proofs.Batch.Fitting
import ModelForge.Proofs.Batch.Schedule
import ModelForge.Proofs.Regeneration
import ModelForge.Proofs.Text.Lines
import ModelForge.Report.Text

namespace ModelForge

open Text

-- What the line of an item starts with.
def Item.mark (success : Bool) : List Char := (if success then "  OK: " else "  FAIL: ").toList

-- An item on its lines: one for itself, and one further in for each of its violations.
inductive Item.Shown (item : Item) : List (List Char) → Prop
  | intro (marked : ∀ success, (mark success <+: l) ↔ (item.outcome.isSuccess = success))
    (violations : vs.length = item.outcome.violations.length) (indented : ∀ v ∈ vs, "      ".toList <+: v) :
    Shown item (l :: vs)

namespace Report

-- Above the items there is a line only if there are none.
inductive Heading (r : Report) : List (List Char) → Prop
  | none (total : r.total = 0) : Heading r ["No model files found in ".toList ++ l]
  | some (total : r.total ≠ 0) : Heading r []

def tally (r : Report) : List Char :=
  ("Models: " ++ toString r.passed ++ "/" ++ toString r.total ++ " passed").toList

def failures (r : Report) : List Char :=
  (toString r.failed ++ " model(s) failed out of " ++ toString r.total ++ " total.").toList

inductive Summary (r : Report) : List (List Char) → Prop
  | passed (failed : r.failed = 0) : Summary r [r.tally]
  | failed (failed : 0 < r.failed) : Summary r [r.tally, [], r.failures]

-- A report on its lines, one item below the other.
inductive Shown (r : Report) : List (List Char) → Prop
  | intro (heading : Heading r head) (items : List.Forall₂ Item.Shown r.items blocks) (summary : Summary r foot) :
    Shown r (head ++ blocks.flatten ++ foot)

end Report

-- There is no line feed in the texts that go to the lines of an item.
structure Item.Plain (item : Item) : Prop where
  input      : '\n' ∉ item.input.text.toList
  file       : ∀ file, (item.outcome = .generated file) → '\n' ∉ file.path.text.toList
  failure    : ∀ failure, (item.outcome = .failed failure) → '\n' ∉ failure.message.toList
  violations : ∀ v ∈ item.outcome.violations, ('\n' ∉ v.instancePath.toList) ∧ ('\n' ∉ v.message.toList)

structure Report.Plain (r : Report) : Prop where
  input : r.total = 0 → '\n' ∉ r.input.text.toList
  items : ∀ item ∈ r.items, item.Plain

@[simp]
theorem feed_notMem_toDigits (n : Nat) : '\n' ∉ Nat.toDigits 10 n := by
  intro h
  exact absurd (Nat.isDigit_of_mem_toDigits (by decide) (by decide) h) (by decide)

-- A line that starts in one way does not start in another one.
theorem not_begins_of_begins {m q l : List Char} (hq : q <+: l) (hm : ¬m <+: q ∧ ¬q <+: m) : ¬m <+: l :=
  fun h => (List.prefix_or_prefix_of_prefix h hq).elim hm.left hm.right

theorem Violation.feed_notMem_text {v : Violation} :
    ('\n' ∉ v.text.toList) ↔ ('\n' ∉ v.instancePath.toList) ∧ ('\n' ∉ v.message.toList) := by
  by_cases hv : v.instancePath = "" <;> simp [text, location, hv]

namespace Item

variable {item : Item} {ls : List (List Char)} {m : List Char}

theorem feed_notMem_itemLine : ('\n' ∉ (Report.itemLine item).toList) ↔ ('\n' ∉ item.input.text.toList) ∧
    (∀ file, (item.outcome = .generated file) → '\n' ∉ file.path.text.toList) ∧
    (∀ failure, (item.outcome = .failed failure) → '\n' ∉ failure.message.toList) := by
  have hm : '\n' ∉ (if item.outcome.isSuccess then "  OK: " else "  FAIL: ").toList := by split <;> decide
  rw [Report.itemLine, String.toList_append, String.toList_append]
  obtain ⟨input, (_ | vs) | file | failure⟩ := item
  all_goals simp_all [Outcome.summary]

theorem plain_iff : (item.Plain) ↔ (∀ l ∈ Report.itemLines item, '\n' ∉ l.toList) := by
  have hv (v : Violation) : ('\n' ∉ (Report.violationLine v).toList) ↔
      ('\n' ∉ v.instancePath.toList) ∧ ('\n' ∉ v.message.toList) := by
    simp [Report.violationLine, ← Violation.feed_notMem_text]
  rw [Report.itemLines, List.forall_mem_cons, feed_notMem_itemLine, List.forall_mem_map]
  constructor
  · intro h
    exact ⟨⟨h.input, h.file, h.failure⟩, fun v hm => (hv v).mpr (h.violations v hm)⟩
  · intro ⟨⟨hi, hf, hm⟩, h⟩
    exact ⟨hi, hf, hm, fun v hm => (hv v).mp (h v hm)⟩

theorem shown (item : Item) : item.Shown ((Report.itemLines item).map fun l => dropReturn l.toList) := by
  refine .intro (fun success => ?marked) (by simp) ?indented
  case marked =>
    have hm : mark item.outcome.isSuccess <+: dropReturn (Report.itemLine item).toList := by
      refine prefix_dropReturn ?_ ?_
      · cases item.outcome.isSuccess <;> decide
      · rw [Report.itemLine, String.append_assoc, String.toList_append]
        exact List.prefix_append _ _
    constructor
    · intro h
      by_contra hs
      refine not_begins_of_begins hm ?_ h
      rw [Bool.eq_not_of_ne hs]
      cases success <;> decide
    · rintro rfl
      exact hm
  case indented =>
    simp only [List.map_map, List.forall_mem_map]
    intro v _
    refine prefix_dropReturn (by decide) ?_
    rw [Report.violationLine, String.toList_append]
    exact List.prefix_append _ _

namespace Shown

theorem length_eq (h : item.Shown ls) : ls.length = (Report.itemLines item).length := by
  have .intro _ hv _ := h
  simp [Report.itemLines, hv]

-- One of the lines is marked, as the outcome says.
theorem countP_mark (h : item.Shown ls) (success : Bool) :
    ls.countP ((mark success).isPrefixOf ·) = if item.outcome.isSuccess = success then 1 else 0 := by
  have .intro hm _ hv := h
  rw [List.countP_cons, List.countP_eq_zero.mpr]
  · simp [hm]
  · intro v hv'
    rw [List.isPrefixOf_iff_prefix]
    refine not_begins_of_begins (hv v hv') ?_
    cases success <;> decide

theorem unmarked (h : item.Shown ls) (hs : ∀ success, ¬m <+: mark success ∧ ¬mark success <+: m)
    (hv : ¬m <+: "      ".toList ∧ ¬"      ".toList <+: m) : ∀ l ∈ ls, ¬m <+: l := by
  have .intro hm _ hi := h
  rw [List.forall_mem_cons]
  exact ⟨not_begins_of_begins ((hm _).mpr rfl) (hs _), fun v hv' => not_begins_of_begins (hi v hv') hv⟩

end Shown

variable {items : List Item} {blocks : List (List (List Char))}

theorem length_blocks (h : List.Forall₂ Shown items blocks) :
    blocks.flatten.length = (items.flatMap Report.itemLines).length := by
  induction h with
  | nil => rfl
  | cons h _ hi => simp [h.length_eq, hi]

theorem countP_mark_blocks (h : List.Forall₂ Shown items blocks) (success : Bool) :
    blocks.flatten.countP ((mark success).isPrefixOf ·) = items.countP (·.outcome.isSuccess = success) := by
  induction h with
  | nil => rfl
  | cons h _ hi =>
    rw [List.flatten_cons, List.countP_append, h.countP_mark, hi, List.countP_cons, Nat.add_comm]
    simp

theorem unmarked_blocks (h : List.Forall₂ Shown items blocks)
    (hs : ∀ success, ¬m <+: mark success ∧ ¬mark success <+: m)
    (hv : ¬m <+: "      ".toList ∧ ¬"      ".toList <+: m) : ∀ l ∈ blocks.flatten, ¬m <+: l := by
  induction h with
  | nil => exact nofun
  | cons h _ hi =>
    rw [List.flatten_cons, List.forall_mem_append]
    exact ⟨h.unmarked hs hv, hi⟩

end Item

namespace Report

variable {r : Report} {ls : List (List Char)} {m : List Char}

theorem toList_text (r : Report) : r.text.toList = (r.lines.map String.toList).flatMap (· ++ ['\n']) := by
  simp [text, String.toList_join, List.flatMap_map]

theorem feed_notMem_summaryLines : ∀ l ∈ r.summaryLines, '\n' ∉ l.toList := by
  rw [summaryLines]
  split <;> simp

theorem plain_iff : (r.Plain) ↔ (∀ l ∈ r.lines, '\n' ∉ l.toList) := by
  have he : (∀ l ∈ r.emptyLines, '\n' ∉ l.toList) ↔ (r.total = 0 → '\n' ∉ r.input.text.toList) := by
    by_cases ht : r.total = 0 <;> simp [emptyLines, ht]
  have hs : ∀ l ∈ r.summaryLines, '\n' ∉ l.toList := feed_notMem_summaryLines
  rw [lines, List.forall_mem_append, List.forall_mem_append, he, and_iff_left hs]
  simp only [List.mem_flatMap, forall_exists_index, and_imp]
  constructor
  · intro h
    exact ⟨h.input, fun l item hi => Item.plain_iff.mp (h.items item hi) l⟩
  · intro ⟨hi, h⟩
    exact ⟨hi, fun item hm => Item.plain_iff.mpr fun l => h l item hm⟩

theorem heading (r : Report) : r.Heading (r.emptyLines.map fun l => dropReturn l.toList) := by
  by_cases ht : r.total = 0
  case pos =>
    have hp : "No model files found in ".toList <+: dropReturn ("No model files found in " ++ r.input.text).toList :=
      prefix_dropReturn (by decide) (String.toList_append .. ▸ List.prefix_append _ _)
    obtain ⟨l, hl⟩ := hp
    rw [emptyLines, if_pos ht, List.map_singleton, ← hl]
    exact .none ht
  case neg =>
    rw [emptyLines, if_neg ht, List.map_nil]
    exact .some ht

theorem summary (r : Report) : r.Summary (r.summaryLines.map fun l => dropReturn l.toList) := by
  have ht : dropReturn r.tally = r.tally := by
    rw [tally, String.toList_append]
    exact dropReturn_append (c := 'd') (by decide) (by decide)
  by_cases h : r.failed > 0
  case pos =>
    have hf : dropReturn r.failures = r.failures := by
      rw [failures, String.toList_append]
      exact dropReturn_append (c := '.') (by decide) (by decide)
    rw [summaryLines, if_pos h]
    change r.Summary [dropReturn r.tally, [], dropReturn r.failures]
    rw [ht, hf]
    exact .failed h
  case neg =>
    rw [summaryLines, if_neg h]
    change r.Summary [dropReturn r.tally]
    rw [ht]
    exact .passed (Nat.eq_zero_of_not_pos h)

theorem shown_of_plain (h : r.Plain) : r.Shown (Text.lines r.text.toList) := by
  rw [toList_text, lines_ended_of_feedless (List.forall_mem_map.mpr (plain_iff.mp h))]
  have hi : List.Forall₂ Item.Shown r.items
      (r.items.map fun item => (itemLines item).map fun l => dropReturn l.toList) :=
    List.forall₂_map_right_iff.mpr (List.forall₂_same.mpr fun item _ => item.shown)
  simpa [lines, List.map_flatMap, List.flatMap_def, Function.comp_def] using Shown.intro r.heading hi r.summary

theorem Heading.length_eq : (r.Heading ls) → ls.length = r.emptyLines.length
  | .none ht => by simp [emptyLines, ht]
  | .some ht => by simp [emptyLines, ht]

theorem Heading.unmarked (h : r.Heading ls)
    (hm : ¬m <+: "No model files found in ".toList ∧ ¬"No model files found in ".toList <+: m) :
    ∀ l ∈ ls, ¬m <+: l := by
  cases h with
  | none => exact List.forall_mem_singleton.mpr (not_begins_of_begins (List.prefix_append _ _) hm)
  | some => exact nofun

theorem Summary.length_eq : (r.Summary ls) → ls.length = r.summaryLines.length
  | .passed hf => by simp [summaryLines, hf]
  | .failed hf => by simp [summaryLines, hf]

theorem tally_marked (r : Report) : "Models: ".toList <+: r.tally := by
  rw [tally, String.append_assoc, String.append_assoc, String.append_assoc, String.toList_append]
  exact List.prefix_append _ _

-- The line with the failures starts with a digit.
theorem failures_unmarked {c : Char} (hc : c.isDigit = false) : ¬c :: m <+: r.failures := by
  obtain ⟨d, ds, hd⟩ := List.exists_cons_of_ne_nil (Nat.toDigits_ne_nil (n := r.failed) (b := 10))
  have hdigit : d.isDigit := Nat.isDigit_of_mem_toDigits (by decide) (by decide) (hd ▸ List.mem_cons_self)
  simp only [failures, String.toList_append, Nat.toString_eq_repr, Nat.toList_repr, hd, List.cons_append]
  rw [List.cons_prefix_cons]
  rintro ⟨rfl, _⟩
  simp [hc] at hdigit

namespace Summary

theorem unmarked (h : r.Summary ls) {c : Char} (hc : c.isDigit = false)
    (hm : ¬c :: m <+: "Models: ".toList ∧ ¬"Models: ".toList <+: c :: m) : ∀ l ∈ ls, ¬c :: m <+: l := by
  have ht : ¬c :: m <+: r.tally := not_begins_of_begins r.tally_marked hm
  cases h with
  | passed => simpa using ht
  | failed => simpa using ⟨ht, failures_unmarked hc⟩

theorem filter_eq (h : r.Summary ls) : ls.filter ("Models: ".toList.isPrefixOf ·) = [r.tally] := by
  have ht : "Models: ".toList.isPrefixOf r.tally := List.isPrefixOf_iff_prefix.mpr r.tally_marked
  have hf : ¬"Models: ".toList.isPrefixOf r.failures := List.isPrefixOf_iff_prefix.not.mpr (failures_unmarked rfl)
  cases h with
  | passed => rw [List.filter_cons_of_pos ht, List.filter_nil]
  | failed =>
    rw [List.filter_cons_of_pos ht, List.filter_cons_of_neg (by decide), List.filter_cons_of_neg hf, List.filter_nil]

end Summary

namespace Shown

theorem length_eq (h : r.Shown ls) : ls.length = r.lines.length := by
  have .intro hh hi hs := h
  simp only [lines, List.length_append, hh.length_eq, Item.length_blocks hi, hs.length_eq]

-- As many lines are marked one way as there are items with such outcomes.
theorem countP_mark (h : r.Shown ls) (success : Bool) :
    ls.countP ((Item.mark success).isPrefixOf ·) = r.items.countP (·.outcome.isSuccess = success) := by
  obtain @⟨head, blocks, foot, hh, hi, hs⟩ := h
  have hh : ∀ l ∈ head, ¬Item.mark success <+: l := hh.unmarked (by cases success <;> decide)
  have hs : ∀ l ∈ foot, ¬Item.mark success <+: l := by
    cases success
    all_goals exact hs.unmarked (by decide) (by decide)
  simp only [← List.isPrefixOf_iff_prefix] at hh hs
  rw [List.countP_append, List.countP_append, Item.countP_mark_blocks hi, List.countP_eq_zero.mpr hh,
    List.countP_eq_zero.mpr hs, Nat.zero_add, Nat.add_zero]

-- No line passes for the tally.
theorem filter_eq (h : r.Shown ls) : ls.filter ("Models: ".toList.isPrefixOf ·) = [r.tally] := by
  obtain @⟨head, blocks, foot, hh, hi, hs⟩ := h
  have hh : ∀ l ∈ head, ¬"Models: ".toList <+: l := hh.unmarked (by decide)
  have hi : ∀ l ∈ blocks.flatten, ¬"Models: ".toList <+: l := Item.unmarked_blocks hi (by decide) (by decide)
  simp only [← List.isPrefixOf_iff_prefix] at hh hi
  rw [List.filter_append, List.filter_append, List.filter_eq_nil_iff.mpr hh, List.filter_eq_nil_iff.mpr hi,
    hs.filter_eq, List.append_nil, List.nil_append]

end Shown

-- A report stands on lines of this form if and only if no line feed gets into them.
theorem shown_iff : (r.Shown (Text.lines r.text.toList)) ↔ r.Plain := by
  refine ⟨fun h => ?_, shown_of_plain⟩
  have hl := h.length_eq
  rw [toList_text] at hl
  have hf : ∀ l ∈ r.lines.map String.toList, '\n' ∉ l := length_lines_ended_iff.mp (by rw [hl, List.length_map])
  exact plain_iff.mpr fun l hm => hf _ (List.mem_map_of_mem hm)

-- The last line of a message is a line of the report, whatever it looks like.
theorem mem_lines_of_failure {input : Path} {failure : Failure} {s l : List Char}
    (hi : ⟨input, .failed failure⟩ ∈ r.items) (hm : failure.message.toList = s ++ '\n' :: l) (hl : '\n' ∉ l) :
    dropReturn l ∈ Text.lines r.text.toList := by
  have he : (itemLine ⟨input, .failed failure⟩).toList =
      ("  FAIL: " ++ input.text ++ ": ").toList ++ s ++ '\n' :: l := by
    rw [itemLine, Outcome.summary, ← String.append_assoc, String.toList_append, hm, ← List.append_assoc]
    rfl
  have hmem : itemLine ⟨input, .failed failure⟩ ∈ r.lines :=
    List.mem_append_left _ (List.mem_append_right _ (List.mem_flatMap.mpr ⟨_, hi, List.mem_cons_self⟩))
  have hmem : (itemLine ⟨input, .failed failure⟩).toList ∈ r.lines.map String.toList := List.mem_map_of_mem hmem
  rw [he] at hmem
  rw [toList_text]
  exact mem_lines_ended hmem hl

end Report

namespace Batch

variable {p : Pipeline} {task : Task} {w w' : World} {input : Path} {r : Report}

-- The report of a batch stands on lines of its form if and only if no line feed gets into them. Their
-- marks then agree with the counts.
theorem Ends.text_shown_iff (ends : Ends p task w input r w') :
    let ls := Text.lines r.text.toList
    ((r.Shown ls) ↔ r.Plain) ∧
    ((r.Plain) →
      (ls.countP ("  OK: ".toList.isPrefixOf ·) = r.passed) ∧
      (ls.countP ("  FAIL: ".toList.isPrefixOf ·) = r.failed) ∧
      (ls.filter ("Models: ".toList.isPrefixOf ·) = [r.tally])) := by
  intro ls
  refine ⟨Report.shown_iff, fun plain => ?_⟩
  have shown : r.Shown ls := Report.shown_of_plain plain
  obtain ⟨items, rfl, _⟩ := ends.fits
  refine ⟨?_, ?_, shown.filter_eq⟩
  · have hc := shown.countP_mark true
    simp only [Bool.decide_eq_true] at hc
    exact hc
  · have hc := shown.countP_mark false
    simp only [Bool.decide_eq_false] at hc
    exact hc.trans failed_ofItems.symm

section Diagnostics

open Pipeline

def failingPipeline (diagnostics : String) : Pipeline where
  grammar := .bundled
  emitter := .ofReply fun _ => .error (.failed ⟨"./bin/qt"⟩ (.exited 1) diagnostics)

def emitterFailure (diagnostics : String) : Failure :=
  .ofError (.emissionFailed ⟨"User.json"⟩ (.failed ⟨"./bin/qt"⟩ (.exited 1) diagnostics))

def failedReport (diagnostics : String) : Report :=
  .ofItems ⟨"User.json"⟩ [⟨⟨"User.json"⟩, .failed (emitterFailure diagnostics)⟩]

theorem ends_failing (diagnostics : String) : ∃ w', Ends (failingPipeline diagnostics) (.generate .typeScript none)
    ⟨oneModel "User.json", []⟩ ⟨"User.json"⟩ (failedReport diagnostics) w' := by
  have answers : (failingPipeline diagnostics).emitter.OfRequest := ⟨_, rfl⟩
  have hi : Discovery.inputs (oneModel "User.json") ⟨"User.json"⟩ = .ok [⟨"User.json"⟩] := by
    simp [Discovery.inputs, FileSystem.exists, FileSystem.isDirectory, FileSystem.entry, resolve_oneModel (.inl rfl),
      Except.isOk, Except.toBool]
  have hv : (failingPipeline diagnostics).grammar.validateDocument (interfaceJob "User.json").document = .valid :=
    valid_userModel rfl
  have reached : Stage.Reached (failingPipeline diagnostics) (.generate .typeScript none) (oneModel "User.json")
      ⟨"User.json"⟩ (.emit (interfaceJob "User.json")) := .emit (read_oneModel (.inl rfl)) hv rfl rfl
  have hp : (process (failingPipeline diagnostics) (.generate .typeScript none) ⟨oneModel "User.json", []⟩
      ⟨"User.json"⟩).fst = _ := process_of_error answers linkless_oneModel reached rfl rfl
  have ends : Ends (failingPipeline diagnostics) (.generate .typeScript none) ⟨oneModel "User.json", []⟩
      ⟨"User.json"⟩ _ _ := .sequential hi
  rw [ends.report_eq answers linkless_oneModel hi, List.map_singleton, hp] at ends
  exact ⟨_, ends⟩

theorem message_emitterFailure (diagnostics : String) :
    ∃ front, ('\n' ∉ front) ∧ ((emitterFailure diagnostics).message.toList = front ++ diagnostics.toList) := by
  have he : (emitterFailure diagnostics).message = "emission failed for " ++ "User.json" ++ ": " ++
      ("./bin/qt" ++ " exited with " ++ ("exit status: " ++ toString 1) ++ ": " ++ diagnostics) := rfl
  refine ⟨("emission failed for " ++ "User.json" ++ ": " ++
    ("./bin/qt" ++ " exited with " ++ ("exit status: " ++ toString 1) ++ ": ")).toList, by simp, ?_⟩
  simp only [he, String.toList_append, List.append_assoc]

theorem failedReport_plain_iff {diagnostics : String} :
    ((failedReport diagnostics).Plain) ↔ ('\n' ∉ diagnostics.toList) := by
  have ⟨front, hf, he⟩ := message_emitterFailure diagnostics
  have hm : ('\n' ∉ (emitterFailure diagnostics).message.toList) ↔ ('\n' ∉ diagnostics.toList) := by
    simp [he, hf]
  constructor
  · intro h
    exact hm.mp ((h.items _ List.mem_cons_self).failure (emitterFailure diagnostics) rfl)
  · intro h
    have hi : '\n' ∉ "User.json".toList := by decide
    refine ⟨nofun, List.forall_mem_singleton.mpr ⟨hi, nofun, ?_, nofun⟩⟩
    rintro _ ⟨⟩
    exact hm.mpr h

theorem Ends.text_shown_iff_failing :
    let diagnostics := "Error: cannot emit User"
    ∃ w', (Ends (failingPipeline diagnostics) (.generate .typeScript none) ⟨oneModel "User.json", []⟩
        ⟨"User.json"⟩ (failedReport diagnostics) w') ∧
      ((failedReport diagnostics).Shown (Text.lines (failedReport diagnostics).text.toList)) := by
  intro diagnostics
  have ⟨w', ends⟩ := ends_failing diagnostics
  exact ⟨w', ends, (text_shown_iff ends).left.mpr (failedReport_plain_iff.mpr (by decide))⟩

-- A second line of diagnostics may even pass for the tally.
theorem Ends.text_not_shown :
    let diagnostics := "Error: cannot emit User\nModels: 1/1 passed"
    ∃ w', (Ends (failingPipeline diagnostics) (.generate .typeScript none) ⟨oneModel "User.json", []⟩
        ⟨"User.json"⟩ (failedReport diagnostics) w') ∧
      (¬(failedReport diagnostics).Shown (Text.lines (failedReport diagnostics).text.toList)) ∧
      ("Models: 1/1 passed".toList ∈ Text.lines (failedReport diagnostics).text.toList) ∧
      ((failedReport diagnostics).tally = "Models: 0/1 passed".toList) := by
  intro diagnostics
  have ⟨w', ends⟩ := ends_failing diagnostics
  refine ⟨w', ends, ?_, ?_, by decide +kernel⟩
  · rw [Report.shown_iff, failedReport_plain_iff]
    decide
  · have hi : ⟨⟨"User.json"⟩, .failed (emitterFailure diagnostics)⟩ ∈ (failedReport diagnostics).items :=
      List.mem_cons_self
    have ⟨front, _, he⟩ := message_emitterFailure diagnostics
    have hd : diagnostics.toList = "Error: cannot emit User".toList ++ '\n' :: "Models: 1/1 passed".toList := by decide
    rw [hd, ← List.append_assoc] at he
    exact Report.mem_lines_of_failure hi he (by decide)

end Diagnostics

end Batch

end ModelForge
