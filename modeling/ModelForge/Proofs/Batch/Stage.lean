import ModelForge.Batch.Schedule
import ModelForge.Proofs.FileSystem.Rewritten
import ModelForge.Proofs.Generation

namespace ModelForge

-- The outcome of work that may break off.
def Outcome.ofWork : Except Halt Outcome → Outcome
  | .ok o => o
  | .error (.error e) => .failed (.ofError e)
  | .error .panic => .failed .ofPanic

namespace Batch

namespace Stage

-- How far an item can have come, told by the files at the start.
inductive Reached (p : Pipeline) (task : Task) (fs : FileSystem) (input : Path) : Stage → Prop
  | read : Reached p task fs input .read
  | validate (read : Document.read fs input = .ok d) : Reached p task fs input (.validate d)
  | emit (read : Document.read fs input = .ok d) (valid : p.grammar.validateDocument d = .valid)
    (generates : task = .generate l directory) (named : Job.of d l directory = .ok job) :
    Reached p task fs input (.emit job)
  | check (emit : Reached p task fs input (.emit job)) (asks : job.request = .ok request)
    (answers : (p.emitter fs request).fst = .lines ls) : Reached p task fs input (.check job ls)
  | write (check : Reached p task fs input (.check job ls)) (directory : fs.isDirectory job.directory) :
    Reached p task fs input (.write job ls)

-- How an item comes from a stage to the next.
inductive Advances (p : Pipeline) (task : Task) (input : Path) : Stage → World → Stage → World → Prop
  | read (read : Document.read w.files input = .ok d) : Advances p task input .read w (.validate d) w
  | validate (generates : task = .generate l directory) (valid : p.grammar.validateDocument d = .valid)
    (named : Job.of d l directory = .ok job) : Advances p task input (.validate d) w (.emit job) w
  | emit (asks : job.request = .ok request) (answers : (p.emitter w.files request).fst = .lines ls) :
    Advances p task input (.emit job) w (.check job ls) { w with calls := w.calls ++ [request] }
  | check (directory : w.files.isDirectory job.directory) :
    Advances p task input (.check job ls) w (.write job ls) w

-- The number of stages before.
def rank : Stage → Nat
  | .read => 0
  | .validate _ => 1
  | .emit _ => 2
  | .check _ _ => 3
  | .write _ _ => 4

-- All the work from a stage on.
def rest (p : Pipeline) (task : Task) (input : Path) : Stage → Action Outcome
  | .read =>
    match task with
    | .validate => do return .ofValidation (p.validateFile (← get).files input)
    | .generate l directory => do return .generated (← p.generateFor input directory l)
  | .validate d =>
    match task with
    | .validate => return .validated (p.grammar.validateDocument d)
    | .generate l directory => do
      p.requireValid d
      let job ← .ofExcept (Job.of d l directory)
      return .generated (← job.run p.emitter)
  | .emit job => do return .generated (← job.run p.emitter)
  | .check job ls => do
    job.checkDirectory
    return .generated (← job.write ls)
  | .write job ls => do return .generated (← job.write ls)

-- The work that a step leaves.
def resume (p : Pipeline) (task : Task) (input : Path) : Stage ⊕ Outcome → Action Outcome
  | .inl stage => rest p task input stage
  | .inr outcome => return outcome

variable {p : Pipeline} {task : Task} {input : Path} {w : World}

theorem runIn_rest (stage : Stage) : (rest p task input stage).runIn w =
    (next p task input stage >>= resume p task input).runIn w := by
  cases stage
  case read =>
    cases task
    case validate =>
      simp only [rest, next, Action.runIn_bind, Action.runIn_get, Pipeline.validateFile]
      cases Document.read w.files input <;> rfl
    case generate =>
      simp only [rest, next, resume, Pipeline.generateFor, Pipeline.load, bind_assoc, pure_bind]
  case validate d =>
    cases task
    case validate => rfl
    case generate => simp only [rest, next, resume, bind_assoc, pure_bind]
  case emit job => simp only [rest, next, resume, Job.run, bind_assoc, pure_bind]
  case check job ls => simp only [rest, next, resume, bind_assoc, pure_bind]
  case write job ls => simp only [rest, next, resume, bind_assoc, pure_bind]

section Next

variable {d : Document} {job : Job} {ls : List String}

theorem runIn_next_read : (next p task input .read).runIn w =
    (match Document.read w.files input with
      | .ok d => .ok (.inl (.validate d))
      | .error e =>
        match task with
        | .validate => .ok (.inr (.failed (.ofDocument e)))
        | .generate _ _ => .error (.error (.document e)), w) := by
  cases task <;> simp only [next, Action.runIn_bind, Action.runIn_get, Pipeline.runIn_readDocument] <;>
    cases Document.read w.files input <;> rfl

theorem runIn_next_validate : (next p task input (.validate d)).runIn w =
    (match task with
      | .validate => .ok (.inr (.validated (p.grammar.validateDocument d)))
      | .generate l directory =>
        match p.grammar.validateDocument d with
        | .valid => (Job.of d l directory).map (.inl ∘ .emit) |>.mapError .error
        | .invalid vs => .error (.error (.invalidModel d.path vs)), w) := by
  cases task
  case validate => rfl
  case generate l directory =>
    simp only [next, Action.runIn_bind, Pipeline.runIn_requireValid, Action.runIn_ofExcept]
    cases p.grammar.validateDocument d <;> cases Job.of d l directory <;> rfl

theorem runIn_next_emit_eq : (next p task input (.emit job)).runIn w =
    match job.request with
    | .ok r => ((job.replied (p.emitter w.files r).fst).map (.inl ∘ .check job),
        ⟨(p.emitter w.files r).snd, w.calls ++ [r]⟩)
    | .error e => (.error (.error e), w) := by
  simp only [next, Action.runIn_bind, Job.runIn_emit_eq]
  cases job.request
  case error => rfl
  case ok r => dsimp only; cases job.replied (p.emitter w.files r).fst <;> rfl

theorem runIn_next_emit (keeps : p.emitter.KeepsFiles) : (next p task input (.emit job)).runIn w =
    match job.request with
    | .ok r => ((job.replied (p.emitter w.files r).fst).map (.inl ∘ .check job), { w with calls := w.calls ++ [r] })
    | .error e => (.error (.error e), w) := by
  rw [runIn_next_emit_eq]
  cases job.request
  case error => rfl
  case ok r => simp only [keeps w.files r]

theorem runIn_next_check : (next p task input (.check job ls)).runIn w =
    (if w.files.isDirectory job.directory then .ok (.inl (.write job ls))
      else .error (.error (.directoryNotFound job.directory)), w) := by
  simp only [next, Action.runIn_bind, Job.runIn_checkDirectory]
  by_cases h : w.files.isDirectory job.directory <;> simp [h]

theorem runIn_next_write : (next p task input (.write job ls)).runIn w =
    match w.files.write job.output (Job.contentOf ls) with
    | .ok files =>
      (.ok (.inr (.generated ⟨job.output, job.typeName, job.language, ls.length⟩)), { w with files })
    | .error e => (.error (.error (.notWritten job.output e)), w) := by
  simp only [next, Action.runIn_bind, Job.runIn_write]
  cases w.files.write job.output (Job.contentOf ls) <;> rfl

end Next

-- The stage right behind another one.
inductive Behind (task : Task) : Stage → Stage → Prop
  | validate : Behind task .read (.validate d)
  | emit (generates : task = .generate l directory) : Behind task (.validate d) (.emit job)
  | check : Behind task (.emit job) (.check job ls)
  | write : Behind task (.check job ls) (.write job ls)

-- A step leads there, whatever the emitter does to the files.
theorem behind_of_next {stage stage' : Stage} {w' : World}
    (hn : (next p task input stage).runIn w = (.ok (.inl stage'), w')) : Behind task stage stage' := by
  cases stage with
  | read =>
    rw [runIn_next_read] at hn
    split at hn
    case h_1 => cases hn; exact .validate
    case h_2 => cases task <;> simp at hn
  | validate d =>
    rw [runIn_next_validate] at hn
    cases task with
    | validate => simp at hn
    | generate l directory =>
      cases hv : p.grammar.validateDocument d <;> simp only [hv] at hn
      case invalid => cases hn
      cases hj : Job.of d l directory <;> rw [hj] at hn <;> cases hn
      exact .emit rfl
  | emit job =>
    rw [runIn_next_emit_eq] at hn
    split at hn
    case h_2 => cases hn
    case h_1 r _ =>
      cases hl : job.replied (p.emitter w.files r).fst <;> rw [hl] at hn <;> cases hn
      exact .check
  | check job ls =>
    rw [runIn_next_check] at hn
    split at hn
    case isTrue => cases hn; exact .write
    case isFalse => simp at hn
  | write job ls =>
    rw [runIn_next_write] at hn
    split at hn <;> simp at hn

theorem Behind.rank_eq {stage stage' : Stage} (h : Behind task stage stage') : stage'.rank = stage.rank + 1 := by
  cases h <;> rfl

section Reached

variable {fs : FileSystem} {calls : List Request} {stage stage' : Stage} {w' : World} {job : Job} {ls : List String}

theorem advances_iff (keeps : p.emitter.KeepsFiles) :
    ((next p task input stage).runIn w = (.ok (.inl stage'), w')) ↔ Advances p task input stage w stage' w' := by
  constructor
  case mpr =>
    intro h
    cases h with
    | read hd => simp [runIn_next_read, hd]
    | validate ht hv hj => simp [runIn_next_validate, ht, hv, hj, Except.map, Except.mapError]
    | emit hr hl => simp [runIn_next_emit keeps, hr, hl, Job.replied, Except.map]
    | check hd => simp [runIn_next_check, hd]
  case mp =>
    intro hn
    cases stage with
    | read =>
      rw [runIn_next_read] at hn
      split at hn
      case h_1 hd => cases hn; exact .read hd
      case h_2 => cases task <;> simp at hn
    | validate d =>
      rw [runIn_next_validate] at hn
      cases task with
      | validate => simp at hn
      | generate l directory =>
        cases hv : p.grammar.validateDocument d <;> simp only [hv] at hn
        case invalid => cases hn
        cases hj : Job.of d l directory <;> rw [hj] at hn <;> cases hn
        exact .validate rfl hv hj
    | emit job =>
      rw [runIn_next_emit keeps] at hn
      split at hn
      case h_2 => cases hn
      case h_1 r hr =>
        cases hl : job.replied (p.emitter w.files r).fst <;> rw [hl] at hn <;> cases hn
        exact .emit hr (Job.replied_ok hl)
    | check job ls =>
      rw [runIn_next_check] at hn
      split at hn
      case isTrue hd => cases hn; exact .check hd
      case isFalse => simp at hn
    | write job ls =>
      rw [runIn_next_write] at hn
      split at hn <;> simp at hn

theorem Reached.next (h : Reached p task fs input stage) :
    (Advances p task input stage ⟨fs, calls⟩ stage' w') → (Reached p task fs input stage')
  | .read hd => .validate hd
  | .validate ht hv hj => have .validate hd := h; .emit hd hv ht hj
  | .emit hr hl => .check h hr hl
  | .check hd => .write h hd

-- Only a write that succeeds changes the files.
theorem files_of_next {r : Except Halt (Stage ⊕ Outcome)} (keeps : p.emitter.KeepsFiles)
    (hn : (Stage.next p task input stage).runIn w = (r, w')) :
    ((w'.files = w.files) ∧ (∀ file, r ≠ .ok (.inr (.generated file)))) ∨ ∃ job ls,
      (stage = .write job ls) ∧ (w.files.write job.output (Job.contentOf ls) = .ok w'.files) ∧
        (r = .ok (.inr (.generated (job.result ls)))) := by
  cases stage with
  | read =>
    rw [runIn_next_read] at hn
    cases hn
    exact .inl ⟨rfl, fun file h => by cases task <;> split at h <;> cases h⟩
  | validate d =>
    rw [runIn_next_validate] at hn
    cases hn
    refine .inl ⟨rfl, fun file h => ?_⟩
    rcases task with _ | ⟨l, directory⟩
    case validate => cases h
    case generate =>
      cases hv : p.grammar.validateDocument d <;> cases hj : Job.of d l directory <;> simp only [hv, hj] at h <;>
        cases h
  | check =>
    rw [runIn_next_check] at hn
    cases hn
    exact .inl ⟨rfl, fun file h => by split at h <;> cases h⟩
  | emit job =>
    rw [runIn_next_emit keeps] at hn
    split at hn <;> cases hn
    case h_1 r _ =>
      exact .inl ⟨rfl, fun file h => by cases hl : job.replied (p.emitter w.files r).fst <;> rw [hl] at h <;> cases h⟩
    case h_2 => exact .inl ⟨rfl, fun file h => by cases h⟩
  | write job ls =>
    rw [runIn_next_write] at hn
    split at hn <;> cases hn
    case h_1 hw => exact .inr ⟨job, ls, rfl, hw, rfl⟩
    case h_2 => exact .inl ⟨rfl, fun file h => by cases h⟩

-- A step leads to the stage right behind.
theorem Advances.rank_eq (h : Advances p task input stage w stage' w') : stage'.rank = stage.rank + 1 := by
  cases h <;> rfl

theorem Reached.output_eq : (Reached p task fs input (.check job ls)) → ∃ l directory n,
    (task = .generate l directory) ∧ (IsOutputName n) ∧
      (job.output = (Output.directory input directory).join ⟨n⟩) ∧
      (job.directory = (Output.directory input directory).trimmed)
  | .check (.emit hr _ ht hj) _ _ =>
    have ⟨n, hn, ho, hp⟩ := Job.output_eq hj
    have hd := Document.path_of_read hr
    ⟨_, _, n, ht, hn, hd ▸ ho, hd ▸ hp⟩

theorem Reached.isOutputLocation {files : FileSystem} {t : Target} (hl : files.Linkless)
    (h : Reached p task fs input (.check job ls)) (hr : files.resolve job.output = .ok t) :
    FileSystem.IsOutputLocation t.location := by
  have ⟨_, _, n, _, hn, ho, _⟩ := h.output_eq
  rw [hl.locate hr, ho, FileSystem.locate_join hn.isName]
  exact .intro hn

-- A write goes to a location of its own kind.
theorem Reached.overwrites {files files' : FileSystem} {content : Bytes} (hl : files.Linkless)
    (h : Reached p task fs input (.check job ls)) (hw : files.write job.output content = .ok files') :
    ∃ l, (FileSystem.IsOutputLocation l) ∧ (files.Overwrites files' l content) := by
  have ⟨t, hr, o⟩ := FileSystem.write_ok hw
  exact ⟨t.location, h.isOutputLocation hl hr, o⟩

-- A step comes to the same on the files at the start and on those that other items have rewritten.
theorem Reached.runIn_next_eq (answers : p.emitter.OfRequest) (hl : fs.Linkless) (h : Reached p task fs input stage)
    (hf : fs.Rewritten w.files) (hr : stage = .read → Document.read w.files input = Document.read fs input)
    (calls : List Request) :
    ((Stage.next p task input stage).runIn w).fst = ((Stage.next p task input stage).runIn ⟨fs, calls⟩).fst := by
  have keeps := answers.keepsFiles
  cases h with
  | read => rw [runIn_next_read, runIn_next_read, hr rfl]
  | validate => rw [runIn_next_validate, runIn_next_validate]
  | @emit _ _ _ job =>
    rw [runIn_next_emit keeps, runIn_next_emit keeps]
    cases job.request with
    | error => rfl
    | ok r => simp only [answers.reply_eq w.files fs r]
  | check => rw [runIn_next_check, runIn_next_check, hf.isDirectory_eq]
  | @write job ls hc hd =>
    obtain ⟨_, _, n, _, hn, ho, hp⟩ := hc.output_eq
    have hm := hf.write_map hl hn.isName (hp ▸ hd) (Job.contentOf ls)
    rw [← ho] at hm
    rw [runIn_next_write, runIn_next_write]
    cases h₁ : w.files.write job.output (Job.contentOf ls) <;>
      cases h₂ : fs.write job.output (Job.contentOf ls) <;> simp_all [Except.map]

theorem Advances.rest_eq (keeps : p.emitter.KeepsFiles) (h : Advances p task input stage w stage' w') :
    (rest p task input stage).runIn w = (rest p task input stage').runIn w' := by
  rw [runIn_rest, Action.runIn_bind, (advances_iff keeps).mpr h]
  rfl

-- An item that has come to a stage has the same work before it that it would have alone.
theorem Reached.solo (keeps : p.emitter.KeepsFiles) (h : Reached p task fs input stage) (calls : List Request) : ∃ calls',
    (rest p task input .read).runIn ⟨fs, calls⟩ = (rest p task input stage).runIn ⟨fs, calls'⟩ := by
  induction h with
  | read => exact ⟨calls, rfl⟩
  | validate hd => exact ⟨calls, Advances.rest_eq keeps (.read hd)⟩
  | @emit d l directory job hd hv ht hj =>
    have h₁ : Advances p task input .read ⟨fs, calls⟩ (.validate d) ⟨fs, calls⟩ := .read hd
    have h₂ : Advances p task input (.validate d) ⟨fs, calls⟩ (.emit job) ⟨fs, calls⟩ := .validate ht hv hj
    exact ⟨calls, (h₁.rest_eq keeps).trans (h₂.rest_eq keeps)⟩
  | check _ hr hl hi =>
    obtain ⟨calls', hi⟩ := hi
    exact ⟨_, hi.trans <| Advances.rest_eq keeps (.emit hr hl)⟩
  | write _ hd hi =>
    obtain ⟨calls', hi⟩ := hi
    exact ⟨_, hi.trans <| Advances.rest_eq keeps (.check hd)⟩

end Reached

end Stage

-- What is done with an item alone is all the work from the first stage on.
theorem process_eq (p : Pipeline) (task : Task) (w : World) (input : Path) :
    process p task w input = (.ofWork ((Stage.rest p task input .read).runIn w).fst,
      ((Stage.rest p task input .read).runIn w).snd) := by
  cases task
  case validate => rfl
  case generate l directory =>
    simp only [process, Stage.rest, Action.runIn_bind]
    rcases (p.generateFor input directory l).runIn w with ⟨(_ | _) | _, _⟩ <;> rfl

-- An item that comes to its end comes to the outcome that it would have alone.
theorem Stage.Reached.outcome_eq {p : Pipeline} {task : Task} {input : Path} {stage : Stage} {w w₁ w₂ : World}
    {outcome : Except Halt Outcome} (answers : p.emitter.OfRequest) (hl : w.files.Linkless)
    (h : Reached p task w.files input stage) (hf : w.files.Rewritten w₁.files)
    (hr : stage = .read → Document.read w₁.files input = Document.read w.files input)
    (hn : (Stage.next p task input stage).runIn w₁ = (outcome.map .inr, w₂)) :
    (process p task w input).fst = .ofWork outcome := by
  have ⟨calls', hs⟩ := h.solo answers.keepsFiles w.calls
  have he := h.runIn_next_eq answers hl hf hr calls'
  rw [process_eq, hs, runIn_rest, Action.runIn_bind]
  rw [hn] at he
  rcases hw : (Stage.next p task input stage).runIn ⟨w.files, calls'⟩ with ⟨r, w'⟩
  obtain rfl : outcome.map .inr = r := by simpa [hw] using he
  cases outcome <;> rfl

end Batch

end ModelForge
