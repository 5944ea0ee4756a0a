import ModelForge.Proofs.Batch.Account

namespace ModelForge

-- What an item can come to by its task.
inductive Outcome.Fits : Task → Outcome → Prop
  | validated {verdict : Verdict} : Fits .validate (.validated verdict)
  | generated {l : Language} {directory : Option Path} {file : WrittenFile} :
    Fits (.generate l directory) (.generated file)
  | failed {task : Task} {f : Failure} : Fits task (.failed f)

namespace Batch

-- How far an item can come by its task.
inductive Stage.Fits : Task → Stage → Prop
  | read {task : Task} : Fits task .read
  | validate {task : Task} {d : Document} : Fits task (.validate d)
  | emit {l : Language} {directory : Option Path} {job : Job} : Fits (.generate l directory) (.emit job)
  | check {l : Language} {directory : Option Path} {job : Job} {ls : List String} :
    Fits (.generate l directory) (.check job ls)
  | write {l : Language} {directory : Option Path} {job : Job} {ls : List String} :
    Fits (.generate l directory) (.write job ls)

variable {p : Pipeline} {task : Task} {w w' : World} {inputs : List Path} {index : Nat} {input : Path} {r : Report}
  {stage stage' : Stage} {outcome : Outcome} {result : Except Halt (Stage ⊕ Outcome)} {s s' : Progress}

namespace Stage.Fits

theorem behind (h : stage.Fits task) (b : Behind task stage stage') : stage'.Fits task := by
  cases b with
  | validate => exact .validate
  | emit generates => exact generates ▸ .emit
  | check => cases h; exact .check
  | write => cases h; exact .write

theorem outcome_fits (h : stage.Fits task) (hn : (stage.next p task input).runIn w = (.ok (.inr outcome), w')) :
    outcome.Fits task := by
  cases h with
  | read =>
    rw [runIn_next_read] at hn
    split at hn
    case h_1 => cases hn
    case h_2 => cases task <;> cases hn; exact .failed
  | @validate _ d =>
    rw [runIn_next_validate] at hn
    cases task with
    | validate => cases hn; exact .validated
    | generate l directory => cases hv : p.grammar.validateDocument d <;> cases hj : Job.of d l directory <;>
        simp only [hv, hj] at hn <;> cases hn
  | @emit _ _ job =>
    rw [runIn_next_emit_eq] at hn
    split at hn
    case h_1 r _ => cases hl : job.replied (p.emitter w.files r).fst <;> rw [hl] at hn <;> cases hn
    case h_2 => cases hn
  | check =>
    rw [runIn_next_check] at hn
    split at hn <;> cases hn
  | write =>
    rw [runIn_next_write] at hn
    split at hn <;> cases hn
    exact .generated

-- A step keeps to the task, whatever the emitter does.
theorem follows (h : stage.Fits task) (hn : (stage.next p task input).runIn w = (result, w')) :
    Follows (fun _ stage => stage.Fits task) (fun _ outcome => outcome.Fits task) input result := by
  rcases result with (_ | _) | (_ | _)
  case error.error | error.panic => exact .failed
  case ok.inl => exact h.behind (behind_of_next hn)
  case ok.inr => exact h.outcome_fits hn

-- Validation changes nothing at all, and asks no emitter.
theorem world_eq (h : stage.Fits .validate) (hn : (stage.next p .validate input).runIn w = (result, w')) :
    w' = w := by
  cases h with
  | read => rw [runIn_next_read] at hn; exact (Prod.mk.inj hn).right.symm
  | validate => rw [runIn_next_validate] at hn; exact (Prod.mk.inj hn).right.symm

end Stage.Fits

inductive Member.Fits (task : Task) : Member → Prop
  | running {index : Nat} {input : Path} {stage : Stage} (fits : stage.Fits task) :
    Fits task (.running index input stage)
  | returned {index : Nat} {outcome : Outcome} (fits : outcome.Fits task) : Fits task (.returned index outcome)
  | panicked : Fits task .panicked

theorem Member.fits_after
    (h : Follows (fun _ stage => stage.Fits task) (fun _ outcome => outcome.Fits task) input result) :
    (after index input result).Fits task := by
  rcases result with (_ | _) | (_ | _)
  case error.error | ok.inr => exact .returned h
  case error.panic => exact .panicked
  case ok.inl => exact .running h

-- A batch on its way that keeps to its task. In validation it has left the world alone.
structure Progress.Fits (task : Task) (w : World) (inputs : List Path) (s : Progress) : Prop where
  members : ∀ m ∈ s.tasks, m.Fits task
  slots   : s.slots.length = inputs.length
  filled  : ∀ outcome, some outcome ∈ s.slots → outcome.Fits task
  world   : task = .validate → s.world = w

namespace Progress.Fits

theorem start : (Progress.start w inputs).Fits task w inputs where
  members m hm := by
    simp only [Progress.start, List.mem_map] at hm
    obtain ⟨_, _, rfl⟩ := hm
    exact .running .read
  slots := by simp [Progress.start]
  filled outcome hm := by simp [Progress.start] at hm
  world _ := rfl

theorem step (h : s.Fits task w inputs) (e : Step p task s s') : s'.Fits task w inputs := by
  cases e with
  | @work w₁ before behind slots index input stage result w₂ next =>
    have .running hs := h.members (.running index input stage) (by simp)
    exact {
      members m hm := by
        by_cases he : m = .after index input result
        case pos => exact he ▸ Member.fits_after (hs.follows next)
        case neg => exact h.members m (mem_of_mem (mem_of_ne hm he))
      slots := h.slots
      filled := h.filled
      world ht := by
        subst ht
        exact (hs.world_eq next).trans (h.world rfl) }
  | @join _ before behind _ index outcome =>
    have .returned ho := h.members (.returned index outcome) (by simp)
    exact {
      members m hm := h.members m (mem_of_mem hm)
      slots := by simpa using h.slots
      filled o hm := by
        rcases List.mem_or_eq_of_mem_set hm with hm | he
        case inl => exact h.filled o hm
        case inr => exact Option.some.inj he ▸ ho
      world := h.world }
  | joinPanicked => exact { h with members m hm := h.members m (mem_of_mem hm) }

theorem steps (h : s.Fits task w inputs) (st : Steps p task s s') : s'.Fits task w inputs := by
  induction st with
  | refl => exact h
  | step e _ hi => exact hi (h.step e)

theorem items_inputs (h : s.Fits task w inputs) : (s.items inputs).map (·.input) = inputs :=
  List.ext_getElem (by simp [Progress.items, h.slots]) (by simp [Progress.items])

-- An empty slot stands for a task that broke off.
theorem items (h : s.Fits task w inputs) : ∀ item ∈ s.items inputs, item.outcome.Fits task := by
  intro item hm
  obtain ⟨i, hi, rfl⟩ := List.mem_iff_getElem.mp hm
  simp only [Progress.items, List.getElem_zipWith]
  have hs : i < s.slots.length := by simp only [Progress.items, List.length_zipWith] at hi; omega
  cases ho : s.slots[i] with
  | none => exact .failed
  | some outcome => exact h.filled outcome (ho ▸ List.getElem_mem _)

end Progress.Fits

-- A batch reports its inputs, each with an outcome that is one of its task, whatever the emitter does.
theorem Ends.fits : (Ends p task w input r w') → ∃ items, (r = .ofItems input items) ∧
    (Discovery.inputs w.files input = .ok (items.map (·.input))) ∧ (∀ item ∈ items, item.outcome.Fits task) ∧
    (task = .validate → w' = w)
  | .intro discovered steps _ =>
    have fits := Progress.Fits.start.steps steps
    ⟨_, rfl, by rw [fits.items_inputs, discovered], fits.items, fits.world⟩

end Batch

end ModelForge
