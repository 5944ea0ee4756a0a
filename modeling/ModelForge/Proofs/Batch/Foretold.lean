import ModelForge.Proofs.Batch.Schedule
import ModelForge.Proofs.Document

namespace ModelForge

theorem Job.of_error {d : Document} {l : Language} {directory : Option Path} {e : GenerationError}
    (h : Job.of d l directory = .error e) : e = .noTypeName d.path := by
  simp only [Job.of] at h
  split at h <;> cases h
  rfl

namespace Batch

-- What generation can come to for an item, by what validation comes to.
inductive Foretells (input : Path) : Outcome → Outcome → Prop
  | unreadable (failure : Failure) : Foretells input (.failed failure) (.failed failure)
  | invalid (violations : List Violation) :
    Foretells input (.validated (.invalid violations)) (.failed (.ofError (.invalidModel input violations)))
  | generated (file : WrittenFile) : Foretells input (.validated .valid) (.generated file)
  | aborted : Foretells input (.validated .valid) (.failed .ofPanic)
  | noTypeName : Foretells input (.validated .valid) (.failed (.ofError (.noTypeName input)))
  | emissionFailed (cause : EmitError) :
    Foretells input (.validated .valid) (.failed (.ofError (.emissionFailed input cause)))
  | directoryNotFound (path : Path) : Foretells input (.validated .valid) (.failed (.ofError (.directoryNotFound path)))
  | notWritten (path : Path) (cause : FileError) :
    Foretells input (.validated .valid) (.failed (.ofError (.notWritten path cause)))

variable {p : Pipeline} {task : Task} {fs : FileSystem} {input : Path} {stage : Stage} {job : Job} {l : Language}
  {directory : Option Path} {outcome : Outcome} {d : Document}

theorem ofError_ne_ofDocument {e : GenerationError} (h : Failure.kindOf e ≠ .io) (e' : DocumentError) :
    Failure.ofError e ≠ .ofDocument e' :=
  fun hf => h (congrArg Failure.kind hf)

-- The words that a message begins with tell it from others.
theorem getElem?_message {start text more : String} (i : Nat) (h : i < start.toList.length) :
    (start ++ text ++ ": " ++ more).toList[i]? = start.toList[i]? := by
  simp only [String.toList_append, List.append_assoc]
  exact List.getElem?_append_left h

theorem notWritten_ne_ofDocument (path : Path) (cause : FileError) (e : DocumentError) :
    Failure.ofError (.notWritten path cause) ≠ .ofDocument e := by
  intro hf
  have hm : "failed to write " ++ path.text ++ ": " ++ cause.message = e.message := congrArg Failure.message hf
  replace hm := congrArg (fun s => s.toList[10]?) hm
  cases e with
  | unreadable path' cause' =>
    have hr : "failed to write ".toList[10]? = "failed to read ".toList[10]? :=
      (getElem?_message 10 (by decide)).symm.trans <| hm.trans <| getElem?_message 10 (by decide)
    exact absurd hr (by decide)
  | malformed path' reason =>
    have hr : "failed to write ".toList[10]? = "failed to parse ".toList[10]? :=
      (getElem?_message 10 (by decide)).symm.trans <| hm.trans <| getElem?_message 10 (by decide)
    exact absurd hr (by decide)

theorem Foretells.ne_ofDocument (h : Foretells input (.validated .valid) outcome) (e : DocumentError) :
    outcome ≠ .failed (.ofDocument e) := by
  cases h with
  | generated => exact nofun
  | aborted => exact fun h => absurd (congrArg Failure.kind (Outcome.failed.inj h)) (by simp [Failure.ofPanic, Failure.ofDocument])
  | noTypeName | emissionFailed | directoryNotFound =>
    exact fun h => ofError_ne_ofDocument (by simp [Failure.kindOf]) e (Outcome.failed.inj h)
  | notWritten => exact fun h => notWritten_ne_ofDocument _ _ e (Outcome.failed.inj h)

-- How far generation can have come, whatever the emitter has answered on the way.
def Approached (p : Pipeline) (task : Task) (fs : FileSystem) (input : Path) (stage : Stage) : Prop :=
  ∃ emitter, Stage.Reached ⟨p.grammar, emitter⟩ task fs input stage

theorem ofValidation_of_read (hd : Document.read fs input = .ok d) :
    Outcome.ofValidation (p.validateFile fs input) = .validated (p.grammar.validateDocument d) := by
  simp only [Pipeline.validateFile, hd, Except.map, Outcome.ofValidation]

theorem ofValidation_of_unread {e : DocumentError} (hd : Document.read fs input = .error e) :
    Outcome.ofValidation (p.validateFile fs input) = .failed (.ofDocument e) := by
  simp only [Pipeline.validateFile, hd, Except.map, Outcome.ofValidation]

-- Items come to what validation says of their documents.
theorem account_validate (p : Pipeline) (fs : FileSystem) : Account p .validate fs
    (Stage.Reached p .validate fs) (fun input outcome => outcome = .ofValidation (p.validateFile fs input)) where
  step {input stage w₁ w₂ result} h _ hr next := by
    cases h with
    | read =>
      rw [Stage.runIn_next_read, hr rfl] at next
      obtain ⟨rfl, _⟩ := Prod.mk.inj next
      cases hd : Document.read fs input with
      | ok d => exact .validate hd
      | error e => exact (ofValidation_of_unread hd).symm
    | validate hd =>
      rw [Stage.runIn_next_validate] at next
      obtain ⟨rfl, _⟩ := Prod.mk.inj next
      exact (ofValidation_of_read hd).symm
    | emit _ _ ht => cases ht
    | check he => have .emit _ _ ht _ := he; cases ht
    | write hc => have ⟨_, _, _, ht, _⟩ := hc.output_eq; cases ht
  overwrites h _ _ := by
    have .write h _ := h
    have ⟨_, _, _, ht, _⟩ := h.output_eq
    cases ht

-- What has come to be asked for does not depend on who answers.
theorem Stage.Reached.of_emit {p : Pipeline} (emitter : Emitter) :
    (Reached p task fs input (.emit job)) → (Reached ⟨p.grammar, emitter⟩ task fs input (.emit job))
  | .emit hd hv ht hj => .emit hd hv ht hj

-- An item that is to be generated from is valid, and its emitter can be asked.
theorem Approached.valid : (Approached p task fs input (.emit job)) → (job.document.path = input) ∧
    (Outcome.ofValidation (p.validateFile fs input) = .validated .valid) ∧ (∃ request, job.request = .ok request)
  | ⟨_, .emit hd hv _ hj⟩ => by
    obtain ⟨rfl, _⟩ := Job.of_ok hj
    exact ⟨Document.path_of_read hd, by rw [ofValidation_of_read hd, hv], Document.request_of_valid hv hj⟩

theorem Approached.asked {ls : List String} :
    (Approached p task fs input (.check job ls)) → Approached p task fs input (.emit job)
  | ⟨emitter, .check he _ _⟩ => ⟨emitter, he⟩

section Generate

variable {w₁ w₂ : World} {result : Except Halt (Stage ⊕ Outcome)} {ls : List String}

-- What a step of generation leaves is foretold by validation.
def Foretold (p : Pipeline) (l : Language) (directory : Option Path) (fs : FileSystem) (input : Path) :
    Except Halt (Stage ⊕ Outcome) → Prop :=
  Follows (Approached p (.generate l directory) fs)
    (fun input outcome => Foretells input (.ofValidation (p.validateFile fs input)) outcome) input

theorem foretold_read (hr : Document.read w₁.files input = Document.read fs input)
    (next : (Stage.next p (.generate l directory) input .read).runIn w₁ = (result, w₂)) :
    Foretold p l directory fs input result := by
  rw [Stage.runIn_next_read, hr] at next
  obtain ⟨rfl, _⟩ := Prod.mk.inj next
  cases hd : Document.read fs input with
  | ok d => exact ⟨p.emitter, .validate hd⟩
  | error e =>
    rw [Foretold, Follows, ofValidation_of_unread hd]
    exact .unreadable _

theorem foretold_validate (hd : Document.read fs input = .ok d)
    (next : (Stage.next p (.generate l directory) input (.validate d)).runIn w₁ = (result, w₂)) :
    Foretold p l directory fs input result := by
  rw [Stage.runIn_next_validate] at next
  obtain ⟨rfl, _⟩ := Prod.mk.inj next
  have hv := ofValidation_of_read (p := p) hd
  have hp := Document.path_of_read hd
  cases hg : p.grammar.validateDocument d with
  | invalid violations =>
    simp only [Foretold, Follows, hv, hg, hp]
    exact .invalid _
  | valid =>
    cases hj : Job.of d l directory with
    | ok job =>
      have reached : Approached p (.generate l directory) fs input (.emit job) := ⟨p.emitter, .emit hd hg rfl hj⟩
      simp only [hj]
      exact reached
    | error e =>
      obtain rfl : e = .noTypeName input := hp ▸ Job.of_error hj
      simp only [Foretold, Follows, hv, hg, hj]
      exact .noTypeName

theorem foretold_emit (keeps : p.emitter.KeepsFiles) (h : Approached p (.generate l directory) fs input (.emit job))
    (next : (Stage.next p (.generate l directory) input (.emit job)).runIn w₁ = (result, w₂)) :
    Foretold p l directory fs input result := by
  have ⟨hp, hv, request, hq⟩ := h.valid
  have ⟨emitter, he⟩ := h
  rw [Stage.runIn_next_emit keeps, hq] at next
  obtain ⟨rfl, _⟩ := Prod.mk.inj next
  cases hl : (p.emitter w₁.files request).fst with
  | lines ls =>
    -- Another emitter could have answered the same at the start.
    exact ⟨.ofReply fun _ => .lines ls, .check (he.of_emit _) hq rfl⟩
  | error cause =>
    simp only [Foretold, Follows, Job.replied, Except.map, hv, hp]
    exact .emissionFailed cause
  | panic =>
    simp only [Foretold, Follows, Job.replied, Except.map, hv]
    exact .aborted

theorem foretold_check (hf : fs.Rewritten w₁.files)
    (h : Approached p (.generate l directory) fs input (.check job ls))
    (next : (Stage.next p (.generate l directory) input (.check job ls)).runIn w₁ = (result, w₂)) :
    Foretold p l directory fs input result := by
  have ⟨_, hv, _⟩ := h.asked.valid
  have ⟨emitter, hc⟩ := h
  rw [Stage.runIn_next_check, hf.isDirectory_eq] at next
  obtain ⟨rfl, _⟩ := Prod.mk.inj next
  by_cases hd : fs.isDirectory job.directory
  case pos =>
    rw [if_pos hd]
    exact ⟨emitter, .write hc hd⟩
  case neg =>
    simp only [Foretold, Follows, if_neg hd, hv]
    exact .directoryNotFound job.directory

theorem foretold_write (h : Approached p (.generate l directory) fs input (.check job ls))
    (next : (Stage.next p (.generate l directory) input (.write job ls)).runIn w₁ = (result, w₂)) :
    Foretold p l directory fs input result := by
  have ⟨_, hv, _⟩ := h.asked.valid
  rw [Stage.runIn_next_write] at next
  cases hw : w₁.files.write job.output (Job.contentOf ls) with
  | error cause =>
    rw [hw] at next
    obtain ⟨rfl, _⟩ := Prod.mk.inj next
    simp only [Foretold, Follows, hv]
    exact .notWritten job.output cause
  | ok files =>
    rw [hw] at next
    obtain ⟨rfl, _⟩ := Prod.mk.inj next
    simp only [Foretold, Follows, hv]
    exact .generated (job.result ls)

theorem account_generate (keeps : p.emitter.KeepsFiles) : Account p (.generate l directory) fs
    (Approached p (.generate l directory) fs)
    (fun input outcome => Foretells input (.ofValidation (p.validateFile fs input)) outcome) where
  step h hf hr next := by
    obtain ⟨emitter, h⟩ := h
    cases h with
    | read => exact foretold_read (hr rfl) next
    | validate hd => exact foretold_validate hd next
    | emit hd hv ht hj => exact foretold_emit keeps ⟨emitter, .emit hd hv ht hj⟩ next
    | check he hq hl => exact foretold_check hf ⟨emitter, .check he hq hl⟩ next
    | write hc _ => exact foretold_write ⟨emitter, hc⟩ next
  overwrites h hl hw := by
    obtain ⟨emitter, h⟩ := h
    cases h with
    | write h _ => exact h.overwrites hl hw

end Generate

-- What is said of each element of one list and of its like in two others.
theorem forall₂_both {α β γ : Type} {R : α → β → Prop} {R' : α → γ → Prop} {as : List α} {bs : List β} {cs : List γ}
    (h : List.Forall₂ R as bs) (h' : List.Forall₂ R' as cs) : List.Forall₂ (fun b c => ∃ a, R a b ∧ R' a c) bs cs := by
  induction h generalizing cs with
  | nil => cases h'; exact .nil
  | cons hr _ hi =>
    have .cons hr' h' := h'
    exact .cons ⟨_, hr, hr'⟩ (hi h')

-- Validation foretells generation, whatever the order in which the items of either go on.
theorem validation_foretells {w : World} (keeps : p.emitter.KeepsFiles) (linkless : w.files.Linkless) (input : Path)
    (l : Language) (directory : Option Path) :
    ((∃ e, ((run p .validate w input).fst = .error e) ∧ ((run p (.generate l directory) w input).fst = .error e)) ∨
      ((∃ r w', Ends p .validate w input r w') ∧ (∃ r w', Ends p (.generate l directory) w input r w'))) ∧
    (∀ r r' w₁ w₂, (Ends p .validate w input r w₁) → (Ends p (.generate l directory) w input r' w₂) →
      List.Forall₂ (fun item item' => (item.input = item'.input) ∧ (Foretells item.input item.outcome item'.outcome) ∧
        ((item.outcome = .validated .valid) → ∀ e, item'.outcome ≠ .failed (.ofDocument e))) r.items r'.items) ∧
    (∀ d job, (p.grammar.validateDocument d = .valid) → (Job.of d l directory = .ok job) →
      ∃ request, job.request = .ok request) := by
  refine ⟨?_, ?_, fun d job hv hj => Document.request_of_valid hv hj⟩
  · cases hi : Discovery.inputs w.files input with
    | error e => exact .inl ⟨e, by simp only [run, hi], by simp only [run, hi]⟩
    | ok inputs => exact .inr ⟨⟨_, _, .sequential hi⟩, ⟨_, _, .sequential hi⟩⟩
  · intro r r' w₁ w₂ ends ends'
    obtain ⟨inputs, discovered⟩ := ends.discovered
    have validated := ends.accounted (account_validate p w.files) keeps linkless (fun _ => .read) discovered
    have generated := ends'.accounted (account_generate keeps) keeps linkless (fun _ => ⟨p.emitter, .read⟩) discovered
    refine (forall₂_both validated generated).imp ?_
    rintro item item' ⟨i, ⟨hin, ho⟩, hin', hf⟩
    rw [← ho, ← hin] at hf
    exact ⟨hin.trans hin'.symm, hf, fun hv e => Foretells.ne_ofDocument (hv ▸ hf) e⟩

theorem validation_foretells_twoModels :
    -- The emitter looks at the files, so that its reply depends on the order.
    let p : Pipeline := ⟨.bundled, fun fs _ => (if (fs.at? ["models", "A.rs"]).isSome then .panic else .lines [], fs)⟩
    let w : World := ⟨twoModels, []⟩
    (p.emitter.KeepsFiles) ∧ (w.files.Linkless) ∧
      (∃ r r' w₁ w₂, (Ends p .validate w ⟨"models"⟩ r w₁) ∧ (Ends p (.generate .rust none) w ⟨"models"⟩ r' w₂) ∧
        (List.Forall₂ (fun item item' => (item.input = item'.input) ∧
          (Foretells item.input item.outcome item'.outcome)) r.items r'.items)) := by
  intro p w
  have keeps : p.emitter.KeepsFiles := fun _ _ => rfl
  have ⟨_, foretells, _⟩ := validation_foretells (w := w) keeps linkless_twoModels ⟨"models"⟩ .rust none
  have ends : Ends p .validate w ⟨"models"⟩ _ _ := .sequential inputs_twoModels
  have ends' : Ends p (.generate .rust none) w ⟨"models"⟩ _ _ := .sequential inputs_twoModels
  exact ⟨keeps, linkless_twoModels, _, _, _, _, ends, ends',
    (foretells _ _ _ _ ends ends').imp fun _ _ h => ⟨h.left, h.right.left⟩⟩

end Batch

end ModelForge
