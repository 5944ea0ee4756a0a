import ModelForge.Proofs.Batch.Account

namespace ModelForge.Batch

variable {p : Pipeline} {task : Task} {w : World} {inputs : List Path} {s s' : Progress}

-- Every item comes to what it would come to alone.
theorem account_alone (answers : p.emitter.OfRequest) (hl : w.files.Linkless) : Account p task w.files
    (Stage.Reached p task w.files) (fun input outcome => (process p task w input).fst = outcome) where
  step {input stage w₁ w₂ result} h hf hr next := by
    have ho (o : Except Halt Outcome) (hn : result = o.map .inr) := h.outcome_eq answers hl hf hr (hn ▸ next)
    rcases hres : result with (_ | _) | (stage' | outcome)
    case error.error e => exact ho (.error <| .error e) hres
    case error.panic => exact ho (.error .panic) hres
    case ok.inr => exact ho (.ok outcome) hres
    case ok.inl =>
      have he := h.runIn_next_eq answers hl hf hr []
      rw [next, hres] at he
      rcases hw : (Stage.next p task input stage).runIn ⟨w.files, []⟩ with ⟨_, w'⟩
      rw [hw] at he
      cases he
      exact h.next <| (Stage.advances_iff answers.keepsFiles).mp hw
  overwrites h hl hw := by
    have .write h _ := h
    exact h.overwrites hl hw

abbrev Progress.Sound (p : Pipeline) (task : Task) (w : World) (inputs : List Path) (s : Progress) : Prop :=
  s.Accounted (Stage.Reached p task w.files) (fun input outcome => (process p task w input).fst = outcome) w.files inputs

theorem Progress.sound_start : (Progress.start w inputs).Sound p task w inputs :=
  accounted_start .refl (fun _ _ => rfl) fun _ => .read

namespace Progress.Sound

theorem preserve (answers : p.emitter.OfRequest) (hl : w.files.Linkless) (apart : Apart w.files inputs)
    {I : Progress → Prop} (keeps : ∀ {s s'}, (Sound p task w inputs s) → (Step p task s s') → I s → I s')
    (h : s.Sound p task w inputs) (hs : I s) (st : Steps p task s s') : (s'.Sound p task w inputs) ∧ I s' :=
  Accounted.preserve (account_alone answers hl) answers.keepsFiles hl apart keeps h hs st

theorem steps (answers : p.emitter.OfRequest) (hl : w.files.Linkless) (apart : Apart w.files inputs)
    (h : s.Sound p task w inputs) (st : Steps p task s s') : s'.Sound p task w inputs :=
  Accounted.steps (account_alone answers hl) answers.keepsFiles hl apart h st

-- When all tasks have been waited for, every item has the outcome that it has alone.
theorem items_eq (h : s.Sound p task w inputs) (done : s.tasks = []) :
    s.items inputs = inputs.map fun input => ⟨input, (process p task w input).fst⟩ := by
  have hi := h.items done
  clear h
  generalize s.items inputs = items at hi
  induction hi with
  | nil => rfl
  | cons ho _ hi => rw [List.map_cons, ← hi, ho.right, ← ho.left]

end Progress.Sound

theorem Steps.trans {s₁ s₂ s₃ : Progress} (h : Steps p task s₁ s₂) (h' : Steps p task s₂ s₃) : Steps p task s₁ s₃ := by
  induction h with
  | refl => exact h'
  | step e _ hi => exact .step e (hi h')

-- What waiting for a task leaves in the slot of its item.
def slotOf : Except Halt Outcome → Option Outcome
  | .error .panic => none
  | result => some (.ofWork result)

@[simp]
theorem getD_slotOf (result : Except Halt Outcome) : (slotOf result).getD (.failed .ofPanic) = .ofWork result := by
  rcases result with (_ | _) | _ <;> rfl

-- A task can go on to its end with nothing in between.
theorem Steps.finish {stage : Stage} {input : Path} {behind : List Member} {w₁ w₂ : World}
    {done more : List (Option Outcome)} {result : Except Halt Outcome}
    (h : (stage.rest p task input).runIn w₁ = (result, w₂)) : Steps p task
      ⟨w₁, .running done.length input stage :: behind, done ++ none :: more⟩
      ⟨w₂, behind, done ++ slotOf result :: more⟩ := by
  rw [Stage.runIn_rest, Action.runIn_bind] at h
  rcases hn : (stage.next p task input).runIn w₁ with ⟨r, w'⟩
  simp only [hn] at h
  have work : Step p task ⟨w₁, [] ++ .running done.length input stage :: behind, done ++ none :: more⟩
      ⟨w', [] ++ .after done.length input r :: behind, done ++ none :: more⟩ := .work hn
  have join (o : Outcome) : Step p task ⟨w', [] ++ .returned done.length o :: behind, done ++ none :: more⟩
      ⟨w', [] ++ behind, (done ++ none :: more).set done.length (some o)⟩ := .join
  have joinPanicked : Step p task ⟨w', [] ++ .panicked :: behind, done ++ none :: more⟩
      ⟨w', [] ++ behind, done ++ none :: more⟩ := .joinPanicked
  simp only [List.set_append_right _ _ (Nat.le_refl _), Nat.sub_self, List.set_cons_zero] at join
  rcases r with (_ | _) | (stage' | outcome)
  case error.error => cases h; exact .step work (.step (join _) .refl)
  case error.panic => cases h; exact .step work (.step joinPanicked .refl)
  case ok.inr => cases h; exact .step work (.step (join _) .refl)
  case ok.inl =>
    have hr := (Stage.behind_of_next hn).rank_eq
    exact .step work (Steps.finish h)
termination_by 4 - stage.rank
decreasing_by cases stage' <;> simp_all [Stage.rank]

theorem Steps.sequential (done : List (Option Outcome)) :
    ∃ slots, (Steps p task
      ⟨w, (inputs.zipIdx done.length).map fun (input, index) => .running index input .read,
        done ++ inputs.map fun _ => none⟩
      ⟨(processAll p task w inputs).snd, [], done ++ slots⟩) ∧
      (inputs.zipWith (fun input slot => ⟨input, slot.getD (.failed .ofPanic)⟩) slots =
        (processAll p task w inputs).fst) := by
  induction inputs generalizing w done with
  | nil => exact ⟨[], .refl, rfl⟩
  | cons input inputs hi =>
    rcases hr : (Stage.rest p task input .read).runIn w with ⟨result, w'⟩
    have hp : process p task w input = (.ofWork result, w') := by rw [process_eq, hr]
    have ⟨slots, st, he⟩ := hi (w := w') (done ++ [slotOf result])
    refine ⟨slotOf result :: slots, ?_, ?_⟩
    · simp only [processAll, hp, List.zipIdx_cons, List.map_cons]
      refine .trans (.finish hr) ?_
      simpa using st
    · simp [processAll, hp, he]

-- Item after item is one of the orders.
theorem Ends.sequential {input : Path} (h : Discovery.inputs w.files input = .ok inputs) :
    Ends p task w input (.ofItems input (processAll p task w inputs).fst) (processAll p task w inputs).snd := by
  have ⟨slots, st, he⟩ : ∃ slots, (Steps p task (.start w inputs) ⟨(processAll p task w inputs).snd, [], slots⟩) ∧
      (inputs.zipWith _ slots = (processAll p task w inputs).fst) := Steps.sequential []
  exact he ▸ .intro h st rfl

-- An item that the emitter has no lines for comes to nothing else.
theorem process_of_refusal {input : Path} {job : Job} {request : Request} {halt : Halt} (answers : p.emitter.OfRequest)
    (hl : w.files.Linkless) (h : Stage.Reached p task w.files input (.emit job))
    (hr : job.request = .ok request) (hp : job.replied (p.emitter w.files request).fst = .error halt) :
    (process p task w input).fst = .ofWork (.error halt) := by
  have hn : (Stage.next p task input (.emit job)).runIn w =
      ((Except.error halt : Except Halt Outcome).map .inr, { w with calls := w.calls ++ [request] }) := by
    simp [Stage.runIn_next_emit answers.keepsFiles, hr, hp, Except.map]
  exact h.outcome_eq answers hl .refl (fun _ => rfl) hn

-- An item whose emitter panics loses its task, and with it all that could be said about it.
theorem process_of_panic {input : Path} {job : Job} {request : Request} (answers : p.emitter.OfRequest)
    (hl : w.files.Linkless) (h : Stage.Reached p task w.files input (.emit job))
    (hr : job.request = .ok request) (hp : (p.emitter w.files request).fst = .panic) :
    (process p task w input).fst = .failed ⟨.aborted, "item task did not complete", []⟩ := by
  have hr : (process p task w input).fst = .ofWork (.error .panic) :=
    process_of_refusal answers hl h hr (by rw [hp]; rfl)
  exact hr

-- What the emitter says of its failure goes to the outcome as it is.
theorem process_of_error {input : Path} {job : Job} {request : Request} {e : EmitError} (answers : p.emitter.OfRequest)
    (hl : w.files.Linkless) (h : Stage.Reached p task w.files input (.emit job))
    (hr : job.request = .ok request) (he : (p.emitter w.files request).fst = .error e) :
    (process p task w input).fst = .failed (.ofError (.emissionFailed job.document.path e)) := by
  have hr : (process p task w input).fst = .ofWork (.error (.error (.emissionFailed job.document.path e))) :=
    process_of_refusal answers hl h hr (by rw [he]; rfl)
  exact hr

theorem failed_ofItems {input : Path} {items : List Item} :
    (Report.ofItems input items).failed = items.countP (!·.outcome.isSuccess) := by
  have hc := List.length_eq_countP_add_countP (fun i : Item => i.outcome.isSuccess) (l := items)
  simp only [Report.ofItems, hc]
  simp

-- A batch that starts on files that others have rewritten reports as on those before.
theorem Ends.report_eq_of_rewritten {input : Path} {r : Report} {w₁ w' : World} (answers : p.emitter.OfRequest)
    (hl : w.files.Linkless) (hf : w.files.Rewritten w₁.files)
    (hr : ∀ i ∈ inputs, Document.read w₁.files i = Document.read w.files i)
    (hi : Discovery.inputs w.files input = .ok inputs) (hi' : Discovery.inputs w₁.files input = .ok inputs) :
    (Ends p task w₁ input r w') → (r = .ofItems input (inputs.map fun i => ⟨i, (process p task w i).fst⟩))
  | .intro discovered steps done => by
    obtain rfl : inputs = _ := Except.ok.inj (hi'.symm.trans discovered)
    have start : (Progress.start w₁ inputs).Sound p task w inputs := Progress.accounted_start hf hr fun _ => .read
    rw [(start.steps answers hl (apart_of_inputs hi) steps).items_eq done]

theorem Ends.report_eq {input : Path} {r : Report} {w' : World} (answers : p.emitter.OfRequest)
    (hl : w.files.Linkless) (hi : Discovery.inputs w.files input = .ok inputs) (ends : Ends p task w input r w') :
    r = .ofItems input (inputs.map fun i => ⟨i, (process p task w i).fst⟩) :=
  ends.report_eq_of_rewritten answers hl .refl (fun _ _ => rfl) hi hi

theorem run_of_mem {input i : Path} (hi : Discovery.inputs w.files input = .ok inputs) (hm : i ∈ inputs) :
    (run p task w i).fst = .ok (.ofItems i [⟨i, (process p task w i).fst⟩]) := by
  simp [run, Discovery.inputs_of_mem hi hm, processAll]

-- Whatever the order in which the items go on and come to their ends, the report is the same: that
-- of the items one by one, each as if it were alone.
theorem Ends.schedule_independent {input : Path} (answers : p.emitter.OfRequest) (linkless : w.files.Linkless)
    (wellFormed : w.files.WellFormed) (discovered : Discovery.inputs w.files input = .ok inputs) :
    (inputs.Nodup) ∧
    (∃ r w', Ends p task w input r w') ∧
    (∀ r w', (Ends p task w input r w') →
      (r.input = input) ∧
      (r.items = inputs.map fun i => ⟨i, (process p task w i).fst⟩) ∧
      (r.total = r.items.length) ∧
      (r.passed = r.items.countP (·.outcome.isSuccess)) ∧
      (r.failed = r.items.countP (!·.outcome.isSuccess)) ∧
      ((run p task w input).fst = .ok r)) ∧
    (∀ i ∈ inputs, (run p task w i).fst = .ok (.ofItems i [⟨i, (process p task w i).fst⟩])) ∧
    (∀ i ∈ inputs, ∀ job request, (Stage.Reached p task w.files i (.emit job)) → (job.request = .ok request) →
      ((p.emitter w.files request).fst = .panic) →
      (process p task w i).fst = .failed ⟨.aborted, "item task did not complete", []⟩) := by
  have sequential : Ends p task w input _ _ := .sequential discovered
  refine ⟨Discovery.nodup_inputs wellFormed discovered, ⟨_, _, sequential⟩, ?_, ?_, ?_⟩
  · intro r w' ends
    have he := ends.report_eq answers linkless discovered
    have hs := sequential.report_eq answers linkless discovered
    refine ⟨by rw [he]; rfl, by rw [he]; rfl, by rw [he]; rfl, by rw [he]; rfl, ?_, ?_⟩
    · rw [he]
      exact failed_ofItems
    · have hr : (run p task w input).fst = .ok (.ofItems input (processAll p task w inputs).fst) := by
        simp only [run, discovered]
      rw [hr, he, hs]
  · intro i hm
    exact run_of_mem discovered hm
  · intro i _ job request h hr hp
    exact process_of_panic answers linkless h hr hp

section TwoModels

open FileSystem

def twoModels : FileSystem where
  entries := [(["models"], .directory), (["models", "a.json"], .file Pipeline.smallModel false),
    (["models", "b.json"], .file Pipeline.smallModel false)]

theorem linkless_twoModels : twoModels.Linkless :=
  linkless_of_entries (by simp [twoModels])

theorem wellFormed_twoModels : twoModels.WellFormed where
  distinct := by decide
  names := by decide

theorem resolve_twoModels : twoModels.resolve ⟨"models"⟩ = .ok (.entry ["models"] .directory) := by
  have w : Walks twoModels linkLimit [] ["models"] (.entry ["models"] .directory) :=
    .down ⟨rfl, rfl⟩ ⟨by decide, by decide, by decide⟩ rfl (by simp) (.arrive rfl)
  exact resolve_ok_iff.mpr ⟨by decide, by decide, by decide, w⟩

theorem resolve_model_twoModels {n : String} (h : n = "a.json" ∨ n = "b.json") :
    twoModels.resolve ((⟨"models"⟩ : Path).join ⟨n⟩) = .ok (.entry ["models", n] (.file Pipeline.smallModel false)) := by
  have w : Walks twoModels linkLimit [] ["models", n] (.entry ["models", n] (.file Pipeline.smallModel false)) := by
    refine .down ⟨rfl, rfl⟩ ⟨by decide, by decide, by decide⟩ rfl (by simp) ?_
    rcases h with rfl | rfl <;>
      exact .down ⟨rfl, rfl⟩ ⟨by decide, by decide, by decide⟩ rfl (by simp) (.arrive rfl)
  rcases h with rfl | rfl <;> exact resolve_ok_iff.mpr ⟨by decide, by decide, by decide, w⟩

theorem isModel_twoModels {n : String} (h : n = "a.json" ∨ n = "b.json") :
    Discovery.isModel twoModels ((⟨"models"⟩ : Path).join ⟨n⟩) := by
  rw [Discovery.isModel, isFile_iff.mpr ⟨_, _, _, resolve_model_twoModels h⟩]
  rcases h with rfl | rfl <;> rfl

theorem inputs_twoModels :
    Discovery.inputs twoModels ⟨"models"⟩ = .ok [⟨"models/a.json"⟩, ⟨"models/b.json"⟩] := by
  have hl : twoModels.list ⟨"models"⟩ = .ok ["a.json", "b.json"] := by rw [FileSystem.list, resolve_twoModels]; rfl
  have hs : (["a.json", "b.json"].mergeSort fun a b => decide (a ≤ b)) = ["a.json", "b.json"] :=
    List.mergeSort_of_pairwise (by decide)
  have he : twoModels.exists ⟨"models"⟩ := by rw [FileSystem.exists, entry, resolve_twoModels]; rfl
  have hd : twoModels.isDirectory ⟨"models"⟩ := isDirectory_iff.mpr ⟨_, resolve_twoModels⟩
  simp only [Discovery.inputs, he, hd, hl, Discovery.modelsIn, hs, List.map_cons, List.map_nil, List.filter_cons,
    isModel_twoModels (.inl rfl), isModel_twoModels (.inr rfl)]
  rfl

end TwoModels

theorem Ends.schedule_independent_twoModels :
    let p : Pipeline := ⟨.bundled, .ofReply fun r => if r.typeName.text = "A" then .panic else .lines []⟩
    let w : World := ⟨twoModels, []⟩
    (p.emitter.OfRequest) ∧ (w.files.Linkless) ∧ (w.files.WellFormed) ∧
      (Discovery.inputs w.files ⟨"models"⟩ = .ok [⟨"models/a.json"⟩, ⟨"models/b.json"⟩]) ∧
      (∃ r w', Ends p (.generate .rust none) w ⟨"models"⟩ r w') ∧
      (∀ r w', (Ends p (.generate .rust none) w ⟨"models"⟩ r w') → r.items.length = 2) := by
  intro p w
  have answers : p.emitter.OfRequest := ⟨_, rfl⟩
  have ⟨_, some_end, every_end, _⟩ := @Ends.schedule_independent p (.generate .rust none) w _ ⟨"models"⟩ answers
    linkless_twoModels wellFormed_twoModels inputs_twoModels
  refine ⟨answers, linkless_twoModels, wellFormed_twoModels, inputs_twoModels, some_end, fun r w' ends => ?_⟩
  rw [(every_end r w' ends).right.left]
  rfl

end ModelForge.Batch
