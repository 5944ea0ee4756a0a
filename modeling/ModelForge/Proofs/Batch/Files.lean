import ModelForge.Proofs.Batch.Fitting
import ModelForge.Proofs.Batch.Schedule

namespace ModelForge

def Outcome.isGenerated : Outcome → Bool
  | generated _ => true
  | _ => false

namespace Batch

-- The lines that the emitter has for an item.
def Emits (p : Pipeline) (task : Task) (w : World) (input : Path) (ls : List String) : Prop :=
  ∃ job, Stage.Reached p task w.files input (.check job ls)

-- An item that reports the file of a job, and the lines that it has for it.
structure Generates (p : Pipeline) (task : Task) (w : World) (item : Item) (job : Job) (ls : List String) : Prop where
  outcome : item.outcome = .generated (job.result ls)
  reached : Stage.Reached p task w.files item.input (.check job ls)

-- The writes of some items, one after the other and nothing else.
inductive Replay (p : Pipeline) (task : Task) (w : World) : List Item → FileSystem → Prop
  | nil : Replay p task w [] w.files
  | write (before : Replay p task w items fs) (generates : Generates p task w item job ls)
    (write : fs.write job.output (Text.joined ls) = .ok fs') : Replay p task w (items ++ [item]) fs'

-- All items have their outputs in one directory.
def Neighbours (inputs : List Path) : Prop :=
  ∀ directory, ∃ d, ∀ input ∈ inputs, Output.directory input directory = d

theorem neighbours_of_inputs {fs : FileSystem} {input : Path} (wf : fs.WellFormed)
    (h : Discovery.inputs fs input = .ok inputs) : Neighbours inputs := by
  intro directory
  rcases Discovery.inputs_cases h with ⟨rfl, _⟩ | ⟨l, rfl⟩
  case inl => exact ⟨_, fun i hi => by rw [List.mem_singleton.mp hi]⟩
  case inr =>
    have hp : ∀ i ∈ Discovery.modelsIn fs input (fs.childNames l), i.parent? = some input.trimmed := by
      intro i hi
      obtain ⟨n, hn, rfl⟩ := Discovery.mem_modelsIn hi
      exact Path.parent?_join (wf.isName_of_child hn)
    cases directory with
    | some d => exact ⟨d, fun _ _ => rfl⟩
    | none => exact ⟨_, fun i hi => by rw [Output.directory, hp i hi]⟩

variable {p : Pipeline} {task : Task} {w : World} {inputs : List Path} {items : List Item} {fs fs' : FileSystem}
  {item item' : Item} {job job' : Job} {ls ls' : List String} {l : Location}

-- In one directory, one location has one path.
theorem Generates.output_unique (nb : Neighbours inputs) (hl : fs.Linkless) (hi : item.input ∈ inputs)
    (hi' : item'.input ∈ inputs) (g : Generates p task w item job ls) (g' : Generates p task w item' job' ls')
    {t t' : Target} (hr : fs.resolve job.output = .ok t) (hr' : fs.resolve job'.output = .ok t')
    (ht : t.location = t'.location) : job.output = job'.output := by
  obtain ⟨_, directory, n, rfl, hn, ho, _⟩ := g.reached.output_eq
  obtain ⟨_, _, n', ⟨⟩, hn', ho', _⟩ := g'.reached.output_eq
  obtain ⟨d, hd⟩ := nb directory
  rw [hl.locate hr, hl.locate hr', ho, ho', hd _ hi, hd _ hi', FileSystem.locate_join hn.isName,
    FileSystem.locate_join hn'.isName] at ht
  have hnn := List.append_cancel_left ht
  simp only [List.cons.injEq, and_true] at hnn
  rw [ho, ho', hd _ hi, hd _ hi', hnn]

namespace Replay

theorem rewritten (hl : w.files.Linkless) (h : Replay p task w items fs) : w.files.Rewritten fs := by
  induction h with
  | nil => exact .refl
  | write _ generates write hi =>
    have ⟨_, ho, o⟩ := generates.reached.overwrites (hi.linkless hl) write
    exact .step hi ho o

-- What has changed is the output of some item.
theorem changed (h : Replay p task w items fs) (hc : fs.at? l ≠ w.files.at? l) :
    ∃ item ∈ items, ∃ file content x, (item.outcome = .generated file) ∧
      (fs.resolve file.path = .ok (.entry l (.file content x))) := by
  induction h with
  | nil => contradiction
  | @write items fs item job ls fs' before generates write hi =>
    have ⟨t, hr, o⟩ := FileSystem.write_ok write
    by_cases he : l = t.location
    case pos =>
      have ⟨x, hr'⟩ := o.resolve hr rfl
      exact ⟨item, by simp, _, _, x, generates.outcome, he ▸ hr'⟩
    case neg =>
      have ⟨item, hm, file, content, x, hg, hf⟩ := hi (o.at? l he ▸ hc)
      exact ⟨item, List.mem_append_left _ hm, file, content, x, hg, o.toAgree.resolve hf he⟩

-- Every output has the content of the item that was the last to write it.
theorem content (nb : Neighbours inputs) (hl : w.files.Linkless) (h : Replay p task w items fs)
    (hin : ∀ item ∈ items, item.input ∈ inputs) : ∀ item ∈ items, ∃ other ∈ items, ∃ job job' ls ls' l x,
      (Generates p task w item job ls) ∧ (Generates p task w other job' ls') ∧ (job.output = job'.output) ∧
      (fs.resolve job.output = .ok (.entry l (.file (Text.joined ls') x))) := by
  induction h with
  | nil => simp
  | @write items fs last job ls fs' before generates write hi =>
    have ⟨t, hr, o⟩ := FileSystem.write_ok write
    have ⟨x, hr'⟩ := o.resolve hr rfl
    have hlast := List.mem_append_right items (List.mem_singleton_self last)
    intro item hm
    rcases List.mem_append.mp hm with hm | hm
    case inr =>
      obtain rfl := List.mem_singleton.mp hm
      exact ⟨_, hlast, job, job, ls, ls, _, x, generates, generates, rfl, hr'⟩
    case inl =>
      have ⟨other, ho, job₁, job₂, ls₁, ls₂, l, x₁, g₁, g₂, hp, hf⟩ :=
        hi (fun item hm => hin item (List.mem_append_left _ hm)) item hm
      by_cases he : l = t.location
      case neg =>
        exact ⟨other, List.mem_append_left _ ho, job₁, job₂, ls₁, ls₂, l, x₁, g₁, g₂, hp, o.toAgree.resolve hf he⟩
      case pos =>
        have hu : job₁.output = job.output := g₁.output_unique nb ((before.rewritten hl).linkless hl)
          (hin item (List.mem_append_left _ hm)) (hin last hlast) generates hf hr he
        exact ⟨last, hlast, job₁, job, ls₁, ls, _, x, g₁, generates, hu, hu ▸ hr'⟩

end Replay

-- Where the progress of a batch has an item that reports a file.
def Progress.Reports (inputs : List Path) (s : Progress) (item : Item) : Prop :=
  ∃ i file, (inputs[i]? = some item.input) ∧ (item.outcome = .generated file) ∧
    ((.returned i item.outcome ∈ s.tasks) ∨ (s.slots[i]? = some (some item.outcome)))

def Progress.live (s : Progress) : List Nat :=
  s.tasks.filterMap Member.index?

-- The files are those at the start after the writes of the items that report a file, each once.
structure Progress.Logged (p : Pipeline) (task : Task) (w : World) (inputs : List Path) (items : List Item)
    (s : Progress) : Prop where
  distinct : s.live.Nodup
  vacant   : ∀ i ∈ s.live, s.slots[i]? = some none
  replay   : Replay p task w items s.world.files
  nodup    : items.Nodup
  mem_iff  : ∀ item, item ∈ items ↔ s.Reports inputs item

variable {s s' : Progress}

namespace Progress

variable {w₁ w₂ : World} {before behind : List Member} {slots : List (Option Outcome)} {index : Nat}
  {input : Path} {stage : Stage} {result : Except Halt (Stage ⊕ Outcome)} {outcome : Outcome} {m m' : Member}

-- Tasks without an outcome report nothing.
theorem reports_congr (hm : ∀ i file, m ≠ .returned i (.generated file))
    (hm' : ∀ i file, m' ≠ .returned i (.generated file)) :
    (Reports inputs ⟨w₁, before ++ m :: behind, slots⟩ item) ↔
      (Reports inputs ⟨w₂, before ++ m' :: behind, slots⟩ item) := by
  have key (i : Nat) (file : WrittenFile) (ho : item.outcome = .generated file) :
      (.returned i item.outcome ∈ before ++ m :: behind) ↔ (.returned i item.outcome ∈ before ++ m' :: behind) := by
    have := hm i file
    have := hm' i file
    simp_all [eq_comm]
  constructor
  · rintro ⟨i, file, hi, ho, h⟩
    exact ⟨i, file, hi, ho, h.imp_left (key i file ho).mp⟩
  · rintro ⟨i, file, hi, ho, h⟩
    exact ⟨i, file, hi, ho, h.imp_left (key i file ho).mpr⟩

namespace Logged

theorem start : (Progress.start w inputs).Logged p task w inputs [] where
  distinct := by
    have hl : (Progress.start w inputs).live = (inputs.zipIdx).map Prod.snd := by
      rw [live, Progress.start, List.filterMap_map, ← List.filterMap_eq_map]
      rfl
    rw [hl, List.zipIdx_map_snd]
    exact List.nodup_range'
  vacant i hi := by
    simp only [live, Progress.start, List.mem_filterMap, List.mem_map] at hi
    obtain ⟨_, ⟨⟨input, index⟩, hm, rfl⟩, ⟨⟩⟩ := hi
    simp only [Progress.start, List.getElem?_map, List.mem_zipIdx_iff_getElem?.mp hm, Option.map_some]
  replay := .nil
  nodup := List.nodup_nil
  mem_iff item := by
    simp only [List.not_mem_nil, false_iff]
    rintro ⟨i, file, _, ho, h | h⟩
    · simp [Progress.start] at h
    · have hm := List.mem_of_getElem? h
      simp [Progress.start] at hm

theorem join (h : Logged p task w inputs items ⟨w₁, before ++ .returned index outcome :: behind, slots⟩) :
    Logged p task w inputs items ⟨w₁, before ++ behind, slots.set index (some outcome)⟩ := by
  have hd := h.distinct
  simp only [live, List.filterMap_append, List.filterMap_cons, Member.index?_returned, List.nodup_middle] at hd
  have ⟨hn, hd⟩ := List.nodup_cons.mp hd
  have hv : slots[index]? = some none := h.vacant index (by simp [live])
  have hlt : index < slots.length := (List.getElem?_eq_some_iff.mp hv).fst
  exact {
    distinct := by simpa [live] using hd
    vacant := by
      intro i hi
      have hne : index ≠ i := fun he => hn (by simpa [live, he] using hi)
      have ⟨m, hm, hx⟩ := List.mem_filterMap.mp hi
      rw [List.getElem?_set_ne hne]
      exact h.vacant i (List.mem_filterMap.mpr ⟨m, mem_of_mem hm, hx⟩)
    replay := h.replay
    nodup := h.nodup
    mem_iff := by
      intro item
      rw [h.mem_iff]
      constructor
      · rintro ⟨i, file, hi, ho, hr | hs⟩
        · by_cases he : Member.returned i item.outcome = .returned index outcome
          case pos =>
            obtain ⟨rfl, rfl⟩ := Member.returned.inj he
            exact ⟨i, file, hi, ho, .inr (by simp [hlt])⟩
          case neg => exact ⟨i, file, hi, ho, .inl (mem_of_ne hr he)⟩
        · have hne : index ≠ i := by
            rintro rfl
            simp [hv] at hs
          exact ⟨i, file, hi, ho, .inr (by rw [List.getElem?_set_ne hne, hs])⟩
      · rintro ⟨i, file, hi, ho, hr | hs⟩
        · exact ⟨i, file, hi, ho, .inl (mem_of_mem hr)⟩
        · by_cases he : index = i
          case neg => exact ⟨i, file, hi, ho, .inr (by rwa [List.getElem?_set_ne he] at hs)⟩
          case pos =>
            obtain rfl := he
            obtain rfl : outcome = item.outcome := by simpa [hlt] using hs
            exact ⟨_, file, hi, ho, .inl (by simp)⟩ }

theorem joinPanicked (h : Logged p task w inputs items ⟨w₁, before ++ .panicked :: behind, slots⟩) :
    Logged p task w inputs items ⟨w₁, before ++ behind, slots⟩ where
  distinct := by simpa [live, List.filterMap_cons] using h.distinct
  vacant i hi := h.vacant i (by simpa [live, List.filterMap_cons] using hi)
  replay := h.replay
  nodup := h.nodup
  mem_iff item := by simpa [Reports] using h.mem_iff item

theorem live_after (h : Logged p task w inputs items ⟨w₁, before ++ .running index input stage :: behind, slots⟩)
    (w₂ : World) (result : Except Halt (Stage ⊕ Outcome)) :
    (live ⟨w₂, before ++ .after index input result :: behind, slots⟩).Nodup ∧
      (∀ i ∈ live ⟨w₂, before ++ .after index input result :: behind, slots⟩, slots[i]? = some none) := by
  have hs : (live ⟨w₂, before ++ .after index input result :: behind, slots⟩).Sublist
      (live ⟨w₁, before ++ .running index input stage :: behind, slots⟩) := by
    rcases result with (_ | _) | (_ | _) <;> simp [live, Member.after, List.filterMap_cons]
  exact ⟨h.distinct.sublist hs, fun i hi => h.vacant i (hs.subset hi)⟩

-- A running task has not reported yet.
theorem not_reports (h : Logged p task w inputs items ⟨w₁, before ++ .running index input stage :: behind, slots⟩)
    (hd : inputs.Nodup) (hi : inputs[index]? = some input) (hin : item.input = input) :
    ¬Reports inputs ⟨w₁, before ++ .running index input stage :: behind, slots⟩ item := by
  have hn := h.distinct
  simp only [live, List.filterMap_append, List.filterMap_cons, Member.index?_running, List.nodup_middle] at hn
  rintro ⟨i, file, hi', ho, hr⟩
  obtain rfl : i = index :=
    (List.getElem?_inj (List.getElem?_eq_some_iff.mp hi').fst hd).mp (by rw [hi', hi, hin])
  rcases hr with hr | hr
  case inl =>
    have hm := mem_of_ne hr (by simp)
    refine (List.nodup_cons.mp hn).left ?_
    rw [← List.filterMap_append]
    exact List.mem_filterMap.mpr ⟨_, hm, rfl⟩
  case inr =>
    have hv := h.vacant i (by simp [live])
    simp [hv] at hr

theorem work (answers : p.emitter.OfRequest) (hd : inputs.Nodup)
    (sound : Sound p task w inputs ⟨w₁, before ++ .running index input stage :: behind, slots⟩)
    (h : Logged p task w inputs items ⟨w₁, before ++ .running index input stage :: behind, slots⟩)
    (next : (stage.next p task input).runIn w₁ = (result, w₂)) :
    ∃ items', Logged p task w inputs items' ⟨w₂, before ++ .after index input result :: behind, slots⟩ := by
  have .running hi reached := sound.members (.running index input stage) (by simp)
  have ⟨hn, hv⟩ := h.live_after w₂ result
  rcases Stage.files_of_next answers.keepsFiles next with ⟨hf, hg⟩ | ⟨job, ls, rfl, hw, rfl⟩
  case inl =>
    refine ⟨items, hn, hv, hf ▸ h.replay, h.nodup, fun item => ?_⟩
    rw [h.mem_iff]
    exact reports_congr (by simp) (Member.after_ne_generated hg)
  case inr =>
    have .write reached _ := reached
    let item : Item := ⟨input, .generated (job.result ls)⟩
    refine ⟨items ++ [item], hn, hv, ?_, ?_, ?_⟩
    · exact .write h.replay ⟨rfl, reached⟩ (Job.contentOf_eq ls ▸ hw)
    · have hni : item ∉ items := fun hm => h.not_reports hd hi rfl (h.mem_iff item |>.mp hm)
      simpa [List.nodup_append] using ⟨h.nodup, fun i hm => ne_of_mem_of_not_mem hm hni⟩
    · intro item'
      constructor
      · intro hm
        rcases List.mem_append.mp hm with hm | hm
        case inl =>
          have ⟨i, file, hi, ho, hr⟩ := h.mem_iff item' |>.mp hm
          exact ⟨i, file, hi, ho, hr.imp_left fun hr => mem_of_mem (mem_of_ne hr (by simp))⟩
        case inr =>
          obtain rfl := List.mem_singleton.mp hm
          exact ⟨index, _, hi, rfl, .inl (List.mem_append_right _ List.mem_cons_self)⟩
      · rintro ⟨i, file, hi', ho, hr⟩
        by_cases he : Member.returned i item'.outcome = .returned index item.outcome
        case pos =>
          obtain ⟨rfl, ho⟩ := Member.returned.inj he
          have hin : item'.input = input := by simpa [hi] using hi'.symm
          have hit : item' = item := by
            cases item'
            simp_all [item]
          exact hit ▸ List.mem_append_right _ (List.mem_singleton_self _)
        case neg =>
          refine List.mem_append_left _ (h.mem_iff item' |>.mpr ⟨i, file, hi', ho, ?_⟩)
          exact hr.imp_left fun hr => mem_of_mem (mem_of_ne hr he)

theorem step (answers : p.emitter.OfRequest) (hd : inputs.Nodup) (sound : s.Sound p task w inputs)
    (h : s.Logged p task w inputs items) : (Step p task s s') → ∃ items', s'.Logged p task w inputs items'
  | .work next => h.work answers hd sound next
  | .join => ⟨items, h.join⟩
  | .joinPanicked => ⟨items, h.joinPanicked⟩

theorem steps (answers : p.emitter.OfRequest) (hl : w.files.Linkless) (hd : inputs.Nodup)
    (apart : Apart w.files inputs) (sound : s.Sound p task w inputs) (h : s.Logged p task w inputs items)
    (st : Steps p task s s') : ∃ items', s'.Logged p task w inputs items' := by
  have keeps {s₁ s₂ : Progress} (sound : s₁.Sound p task w inputs) (e : Step p task s₁ s₂) :
      (∃ items, s₁.Logged p task w inputs items) → ∃ items, s₂.Logged p task w inputs items
    | ⟨_, h⟩ => h.step answers hd sound e
  exact (sound.preserve answers hl apart keeps ⟨items, h⟩ st).right

end Logged

theorem mem_items_iff : (item ∈ s.items inputs) ↔ ∃ (i : Nat) (slot : Option Outcome),
    (inputs[i]? = some item.input) ∧ (s.slots[i]? = some slot) ∧ (item.outcome = slot.getD (.failed .ofPanic)) := by
  simp only [Progress.items, List.mem_iff_getElem?, List.getElem?_zipWith]
  constructor
  · rintro ⟨i, h⟩
    cases hi : inputs[i]? <;> cases hs : s.slots[i]? <;> simp only [hi, hs, reduceCtorEq, Option.some.injEq] at h
    subst h
    exact ⟨i, _, hi, hs, rfl⟩
  · rintro ⟨i, slot, hi, hs, ho⟩
    refine ⟨i, ?_⟩
    simp only [hi, hs, ← ho]

-- What is reported in the end is what the items of the report say.
theorem reports_iff (done : s.tasks = []) :
    (s.Reports inputs item) ↔ (item ∈ s.items inputs) ∧ (item.outcome.isGenerated) := by
  rw [mem_items_iff]
  constructor
  · rintro ⟨i, file, hi, ho, h⟩
    rw [done] at h
    have hs := h.resolve_left List.not_mem_nil
    exact ⟨⟨i, _, hi, hs, rfl⟩, by rw [ho]; rfl⟩
  · rintro ⟨⟨i, slot, hi, hs, ho⟩, hg⟩
    cases slot with
    | none => simp [ho, Outcome.isGenerated] at hg
    | some outcome =>
      obtain rfl : item.outcome = outcome := ho
      cases hf : item.outcome <;> simp only [hf, Outcome.isGenerated, Bool.false_eq_true] at hg
      exact ⟨i, _, hi, hf, .inr (hf ▸ hs)⟩

end Progress

-- The files after a batch are those at the start and the outputs of the items that report one: of those
-- that report the same output, the content of one. Failed items leave no trace.
theorem Ends.files_written {input : Path} {r : Report} {w' : World} (answers : p.emitter.OfRequest)
    (linkless : w.files.Linkless) (wellFormed : w.files.WellFormed) (ends : Ends p task w input r w') :
    (∀ l, w'.files.at? l ≠ w.files.at? l → ∃ item ∈ r.items, ∃ file content x, (item.outcome = .generated file) ∧
      (w'.files.resolve file.path = .ok (.entry l (.file content x)))) ∧
    (∀ item ∈ r.items, ∀ file, (item.outcome = .generated file) →
      ∃ other ∈ r.items, ∃ file' ls l x, (other.outcome = .generated file') ∧ (file'.path = file.path) ∧
        (Emits p task w other.input ls) ∧ (w'.files.resolve file.path = .ok (.entry l (.file (Text.joined ls) x)))) ∧
    (∀ item ∈ r.items, ∀ file, (item.outcome = .generated file) →
      (∀ other ∈ r.items, ∀ file', (other.outcome = .generated file') → (file'.path = file.path) → other = item) →
      ∃ ls l x, (Emits p task w item.input ls) ∧
        (w'.files.resolve file.path = .ok (.entry l (.file (Text.joined ls) x)))) ∧
    (∃ items, (items.Perm (r.items.filter (·.outcome.isGenerated))) ∧ (Replay p task w items w'.files)) ∧
    (task = .validate → w' = w) := by
  have ⟨_, _, _, _, unchanged⟩ := ends.fits
  obtain @⟨inputs, s, discovered, steps, done⟩ := ends
  have apart := apart_of_inputs discovered
  have nodup := Discovery.nodup_inputs wellFormed discovered
  have nb := neighbours_of_inputs wellFormed discovered
  have sound : s.Sound p task w inputs := Progress.sound_start.steps answers linkless apart steps
  have ⟨items, logged⟩ := Progress.Logged.start.steps answers linkless nodup apart Progress.sound_start steps
  have hm {item : Item} : (item ∈ items) ↔ (item ∈ s.items inputs) ∧ (item.outcome.isGenerated) :=
    (logged.mem_iff item).trans (Progress.reports_iff done)
  have hin : ∀ item ∈ items, item.input ∈ inputs := fun item h => by
    have ⟨_, _, hi, _⟩ := Progress.mem_items_iff.mp (hm.mp h).left
    exact List.mem_of_getElem? hi
  have written : ∀ item ∈ s.items inputs, ∀ file, (item.outcome = .generated file) →
      ∃ other ∈ s.items inputs, ∃ file' ls l x, (other.outcome = .generated file') ∧ (file'.path = file.path) ∧
        (Emits p task w other.input ls) ∧
        (s.world.files.resolve file.path = .ok (.entry l (.file (Text.joined ls) x))) := by
    intro item hi file ho
    have hg : item ∈ items := hm.mpr ⟨hi, by rw [ho]; rfl⟩
    have ⟨other, hother, job, job', ls, ls', l, x, g, g', hp, hr⟩ := logged.replay.content nb linkless hin item hg
    obtain rfl : job.result ls = file := by simpa [ho] using g.outcome.symm
    exact ⟨other, (hm.mp hother).left, _, ls', l, x, g'.outcome, hp.symm, ⟨job', g'.reached⟩, hr⟩
  refine ⟨?_, written, ?_, ⟨items, ?_, logged.replay⟩, unchanged⟩
  · intro l hc
    have ⟨item, hi, h⟩ := logged.replay.changed hc
    exact ⟨item, (hm.mp hi).left, h⟩
  · intro item hi file ho alone
    have ⟨other, hother, file', ls, l, x, ho', hp, he, hr⟩ := written item hi file ho
    obtain rfl := alone other hother file' ho' hp
    exact ⟨ls, l, x, he, hr⟩
  · have hn : (s.items inputs).Nodup := by
      rw [sound.items_eq done]
      exact nodup.map fun i j h => (Item.mk.inj h).left
    refine (List.perm_ext_iff_of_nodup logged.nodup (hn.filter _)).mpr fun item => ?_
    rw [hm, List.mem_filter]

theorem Ends.files_written_twoModels :
    let p : Pipeline := ⟨.bundled, .ofReply fun r => .lines ["struct " ++ r.typeName.text ++ ";"]⟩
    let w : World := ⟨twoModels, []⟩
    (p.emitter.OfRequest) ∧ (w.files.Linkless) ∧ (w.files.WellFormed) ∧
      (∃ r w' items, (Ends p (.generate .rust none) w ⟨"models"⟩ r w') ∧
        (items.Perm (r.items.filter (·.outcome.isGenerated))) ∧
        (Replay p (.generate .rust none) w items w'.files)) := by
  intro p w
  have answers : p.emitter.OfRequest := ⟨_, rfl⟩
  have ends : Ends p (.generate .rust none) w ⟨"models"⟩ _ _ := .sequential inputs_twoModels
  have ⟨_, _, _, ⟨items, perm, replay⟩, _⟩ := ends.files_written answers linkless_twoModels wellFormed_twoModels
  exact ⟨answers, linkless_twoModels, wellFormed_twoModels, _, _, items, ends, perm, replay⟩

end Batch

end ModelForge
