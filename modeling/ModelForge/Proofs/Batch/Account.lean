import ModelForge.Proofs.Batch.Stage
import ModelForge.Proofs.Discovery

namespace ModelForge.Batch

-- Items that do not read what another one may write.
def Apart (fs : FileSystem) (inputs : List Path) : Prop :=
  (inputs.length ≤ 1) ∨
    (∀ input ∈ inputs, (fs.isFile input) ∧ (input.hasExtension Discovery.modelExtension))

theorem apart_of_inputs {fs : FileSystem} {inputs : List Path} {input : Path}
    (h : Discovery.inputs fs input = .ok inputs) : Apart fs inputs := by
  rcases Discovery.inputs_cases h with ⟨rfl, _⟩ | ⟨l, rfl⟩
  case inl => exact .inl (by simp)
  case inr => exact .inr fun i hi => by simpa [Discovery.isModel] using Discovery.isModel_of_mem_modelsIn hi

-- What a step leaves to be known of an item, or to be told of it.
def Follows (known : Path → Stage → Prop) (told : Path → Outcome → Prop) (input : Path) :
    Except Halt (Stage ⊕ Outcome) → Prop
  | .ok (.inl stage) => known input stage
  | .ok (.inr outcome) => told input outcome
  | .error (.error e) => told input (.failed (.ofError e))
  | .error .panic => told input (.failed .ofPanic)

-- What is known of an item at a stage and told of its outcome, by the files at the start. It stays right
-- with each step, whatever other items have written by then.
structure Account (p : Pipeline) (task : Task) (fs : FileSystem) (known : Path → Stage → Prop)
    (told : Path → Outcome → Prop) : Prop where
  step {w w' : World} {result : Except Halt (Stage ⊕ Outcome)} : (known input stage) → (fs.Rewritten w.files) →
    (stage = .read → Document.read w.files input = Document.read fs input) →
    ((stage.next p task input).runIn w = (result, w')) → Follows known told input result
  overwrites {files files' : FileSystem} : (known input (.write job ls)) → (files.Linkless) →
    (files.write job.output (Job.contentOf ls) = .ok files') →
    ∃ l, (FileSystem.IsOutputLocation l) ∧ (files.Overwrites files' l (Job.contentOf ls))

-- A task with its item, in keeping with an account.
inductive Member.Accounted (known : Path → Stage → Prop) (told : Path → Outcome → Prop) (inputs : List Path) : Member → Prop
  | running (mem : inputs[index]? = some input) (reached : known input stage) :
    Accounted known told inputs (.running index input stage)
  | returned (mem : inputs[index]? = some input) (alone : told input outcome) :
    Accounted known told inputs (.returned index outcome)
  | panicked : Accounted known told inputs .panicked

structure Progress.Accounted (known : Path → Stage → Prop) (told : Path → Outcome → Prop) (fs : FileSystem)
    (inputs : List Path) (s : Progress) : Prop where
  rewritten : fs.Rewritten s.world.files
  members   : ∀ m ∈ s.tasks, m.Accounted known told inputs
  unread    : ∀ index input, .running index input .read ∈ s.tasks →
                Document.read s.world.files input = Document.read fs input
  fewer     : s.tasks.length ≤ inputs.length
  slots     : s.slots.length = inputs.length
  filled    : ∀ (i : Nat) outcome, s.slots[i]? = some (some outcome) →
                ∃ input, (inputs[i]? = some input) ∧ (told input outcome)
  empty     : ∀ (i : Nat) input, inputs[i]? = some input → s.slots[i]? = some none →
                (∃ m ∈ s.tasks, m.index? = some i) ∨ (told input (.failed .ofPanic))

namespace Member

variable {index : Nat} {input : Path} {stage : Stage} {outcome : Outcome} {result : Except Halt (Stage ⊕ Outcome)}
  {known : Path → Stage → Prop} {told : Path → Outcome → Prop} {inputs : List Path}

@[simp]
theorem index?_running : (running index input stage).index? = some index := rfl

@[simp]
theorem index?_returned : (returned index outcome).index? = some index := rfl

@[simp]
theorem index?_panicked : panicked.index? = none := rfl

theorem index?_after (h : result ≠ .error .panic) : (after index input result).index? = some index := by
  rcases result with (_ | _) | (_ | _)
  case error.panic => contradiction
  all_goals rfl

theorem after_ne_generated (h : ∀ file, result ≠ .ok (.inr (.generated file))) (i : Nat) (file : WrittenFile) :
    after index input result ≠ .returned i (.generated file) := by
  rcases result with (_ | _) | (_ | o) <;> simp [after]
  rintro _ rfl
  exact h file rfl

theorem eq_of_after_running {i : Nat} {input' : Path}
    (h : running i input' stage = after index input result) : result = .ok (.inl stage) := by
  rcases result with (_ | _) | (_ | _) <;> cases h
  rfl

theorem accounted_after (hi : inputs[index]? = some input) (h : Follows known told input result) :
    (after index input result).Accounted known told inputs := by
  rcases result with (_ | _) | (_ | _)
  case error.error | ok.inr => exact .returned hi h
  case error.panic => exact .panicked
  case ok.inl => exact .running hi h

end Member

namespace Progress

theorem mem_of_mem {α : Type} {m x : α} {before behind : List α} (hm : m ∈ before ++ behind) :
    m ∈ before ++ x :: behind := by
  simp_all [or_left_comm]

theorem mem_of_ne {α : Type} {m x : α} {before behind : List α} (hm : m ∈ before ++ x :: behind) (hn : m ≠ x) :
    m ∈ before ++ behind := by
  simp_all

-- A batch can start on files that others have rewritten, if its items are read as before.
theorem accounted_start {w : World} {fs : FileSystem} {inputs : List Path} {known : Path → Stage → Prop}
    {told : Path → Outcome → Prop} (hf : fs.Rewritten w.files)
    (hr : ∀ input ∈ inputs, Document.read w.files input = Document.read fs input)
    (hs : ∀ input, known input .read) : (start w inputs).Accounted known told fs inputs where
  rewritten := hf
  members m hm := by
    simp only [start, List.mem_map] at hm
    obtain ⟨⟨input, index⟩, hm, rfl⟩ := hm
    exact .running (List.mem_zipIdx_iff_getElem?.mp hm) (hs input)
  unread i input hm := by
    simp only [start, List.mem_map, List.mem_zipIdx_iff_getElem?] at hm
    obtain ⟨⟨_, _⟩, hm, ⟨⟩⟩ := hm
    exact hr _ (List.mem_of_getElem? hm)
  fewer := by simp [start]
  slots := by simp [start]
  filled i outcome h := by
    have hm := List.mem_of_getElem? h
    simp [start] at hm
  empty i input hi _ := by
    refine .inl ⟨.running i input .read, ?_, rfl⟩
    simp only [start, List.mem_map]
    exact ⟨(input, i), List.mem_zipIdx_iff_getElem?.mpr hi, rfl⟩

end Progress

namespace Progress.Accounted

variable {known : Path → Stage → Prop} {told : Path → Outcome → Prop} {p : Pipeline} {task : Task} {fs : FileSystem}
  {inputs : List Path} {s s' : Progress} {w₁ w₂ : World} {before behind : List Member} {slots : List (Option Outcome)}
  {index : Nat} {input : Path} {stage : Stage} {result : Except Halt (Stage ⊕ Outcome)} {outcome : Outcome}

theorem join (h : Accounted known told fs inputs ⟨w₁, before ++ .returned index outcome :: behind, slots⟩) :
    Accounted known told fs inputs ⟨w₁, before ++ behind, slots.set index (some outcome)⟩ where
  rewritten := h.rewritten
  members m hm := h.members m (mem_of_mem hm)
  unread i input hm := h.unread i input (mem_of_mem hm)
  fewer := by have := h.fewer; simp_all; omega
  slots := by simpa using h.slots
  filled i o hi := by
    have .returned hm ha := h.members (.returned index outcome) (by simp)
    rw [List.getElem?_set] at hi
    split at hi
    case isTrue he =>
      split at hi <;> cases hi
      exact ⟨_, he ▸ hm, ha⟩
    case isFalse => exact h.filled i o hi
  empty i input hi hs := by
    rw [List.getElem?_set] at hs
    split at hs
    case isTrue => split at hs <;> cases hs
    case isFalse he =>
      rcases h.empty i input hi hs with ⟨m, hm, hx⟩ | hp
      case inl => exact .inl ⟨m, mem_of_ne hm (by rintro rfl; simp_all [Member.index?]), hx⟩
      case inr => exact .inr hp

theorem joinPanicked (h : Accounted known told fs inputs ⟨w₁, before ++ .panicked :: behind, slots⟩) :
    Accounted known told fs inputs ⟨w₁, before ++ behind, slots⟩ where
  rewritten := h.rewritten
  members m hm := h.members m (mem_of_mem hm)
  unread i input hm := h.unread i input (mem_of_mem hm)
  fewer := by have := h.fewer; simp_all; omega
  slots := h.slots
  filled := h.filled
  empty i input hi hs := by
    rcases h.empty i input hi hs with ⟨m, hm, hx⟩ | hp
    case inl => exact .inl ⟨m, mem_of_ne hm (by rintro rfl; simp [Member.index?] at hx), hx⟩
    case inr => exact .inr hp

theorem work (account : Account p task fs known told) (keeps : p.emitter.KeepsFiles) (hl : fs.Linkless)
    (apart : Apart fs inputs)
    (h : Accounted known told fs inputs ⟨w₁, before ++ .running index input stage :: behind, slots⟩)
    (next : (stage.next p task input).runIn w₁ = (result, w₂)) :
    Accounted known told fs inputs ⟨w₂, before ++ .after index input result :: behind, slots⟩ := by
  have .running hin reached := h.members (.running index input stage) (by simp)
  have hr : stage = .read → Document.read w₁.files input = Document.read fs input :=
    fun he => h.unread index input (by simp [he])
  have follows := account.step reached h.rewritten hr next
  have hw : fs.Rewritten w₂.files := by
    rcases Stage.files_of_next keeps next with ⟨hf, _⟩ | ⟨job, ls, rfl, hw, _⟩
    case inl => exact hf ▸ h.rewritten
    case inr =>
      have ⟨_, ho, o⟩ := account.overwrites reached (h.rewritten.linkless hl) hw
      exact .step h.rewritten ho o
  have ms : ∀ m ∈ before ++ Member.after index input result :: behind, m.Accounted known told inputs := by
    intro m hm
    by_cases he : m = Member.after index input result
    case pos => exact he ▸ Member.accounted_after hin follows
    case neg => exact h.members m (mem_of_mem (mem_of_ne hm he))
  exact {
    rewritten := hw
    members := ms
    unread i input' hi := by
      rcases apart with ha | ha
      case inr =>
        have .running hin _ := ms _ hi
        have ⟨hfile, hjson⟩ := ha input' (List.mem_of_getElem? hin)
        exact hw.document_eq hl hfile hjson
      case inl =>
        -- There is no other item.
        have hn : before ++ behind = [] := by
          have hc := h.fewer
          simp only [List.length_append, List.length_cons] at hc
          exact List.eq_nil_of_length_eq_zero (by rw [List.length_append]; omega)
        have he : Member.running i input' .read = .after index input result := by
          by_contra hne
          simpa [hn] using mem_of_ne hi hne
        obtain rfl := Member.eq_of_after_running he
        simpa [Stage.rank] using ((Stage.advances_iff keeps).mp next).rank_eq
    fewer := by simpa using h.fewer
    slots := h.slots
    filled := h.filled
    empty i input' hi hs := by
      rcases h.empty i input' hi hs with ⟨m, hm, hx⟩ | hp
      case inr => exact .inr hp
      case inl =>
        -- The task of the slot may be the one that has gone on, and have broken off.
        by_cases he : m = .running index input stage
        case neg => exact .inl ⟨m, mem_of_mem (mem_of_ne hm he), hx⟩
        case pos =>
          obtain rfl : index = i := by simpa [he, Member.index?] using hx
          by_cases hb : result = .error .panic
          case pos =>
            obtain rfl : input = input' := by simpa [hin] using hi
            rw [hb] at follows
            exact .inr follows
          case neg => exact .inl ⟨_, List.mem_append_right _ List.mem_cons_self, Member.index?_after hb⟩ }

theorem step (account : Account p task fs known told) (keeps : p.emitter.KeepsFiles) (hl : fs.Linkless)
    (apart : Apart fs inputs) (h : s.Accounted known told fs inputs) :
    (Step p task s s') → s'.Accounted known told fs inputs
  | .work next => h.work account keeps hl apart next
  | .join => h.join
  | .joinPanicked => h.joinPanicked

-- What the steps of an accounted progress keep, whole runs keep.
theorem preserve (account : Account p task fs known told) (keeps : p.emitter.KeepsFiles) (hl : fs.Linkless)
    (apart : Apart fs inputs) {I : Progress → Prop}
    (hI : ∀ {s s'}, (s.Accounted known told fs inputs) → (Step p task s s') → I s → I s')
    (h : s.Accounted known told fs inputs) (hs : I s) (st : Steps p task s s') :
    (s'.Accounted known told fs inputs) ∧ I s' := by
  induction st with
  | refl => exact ⟨h, hs⟩
  | step e _ hi => exact hi (h.step account keeps hl apart e) (hI h e hs)

theorem steps (account : Account p task fs known told) (keeps : p.emitter.KeepsFiles) (hl : fs.Linkless)
    (apart : Apart fs inputs) (h : s.Accounted known told fs inputs) (st : Steps p task s s') :
    s'.Accounted known told fs inputs :=
  h.preserve (I := fun _ => True) account keeps hl apart (fun _ _ => id) trivial st |>.left

-- When all tasks have been waited for, every item has an outcome that is told of it.
theorem items (h : s.Accounted known told fs inputs) (done : s.tasks = []) :
    List.Forall₂ (fun input item => (item.input = input) ∧ (told input item.outcome)) inputs (s.items inputs) := by
  refine List.forall₂_iff_get.mpr ⟨by simp [Progress.items, h.slots], fun i hi hs => ?_⟩
  have hlt : i < s.slots.length := h.slots ▸ hi
  have hin : inputs[i]? = some inputs[i] := List.getElem?_eq_getElem hi
  simp only [Progress.items, List.get_eq_getElem, List.getElem_zipWith, true_and]
  cases ho : s.slots[i] with
  | none =>
    rcases h.empty i inputs[i] hin (by rw [List.getElem?_eq_getElem hlt, ho]) with ⟨m, hm, _⟩ | hp
    case inl => simp [done] at hm
    case inr => exact hp
  | some outcome =>
    obtain ⟨input, hi', ht⟩ := h.filled i outcome (by rw [List.getElem?_eq_getElem hlt, ho])
    obtain rfl : inputs[i] = input := by simpa [hin] using hi'
    exact ht

end Progress.Accounted

theorem Ends.discovered {p : Pipeline} {task : Task} {w w' : World} {input : Path} {r : Report} :
    (Ends p task w input r w') → ∃ inputs, Discovery.inputs w.files input = .ok inputs
  | .intro discovered _ _ => ⟨_, discovered⟩

-- A report tells of every item what the account says.
theorem Ends.accounted {known : Path → Stage → Prop} {told : Path → Outcome → Prop} {p : Pipeline} {task : Task}
    {w w' : World} {inputs : List Path} {input : Path} {r : Report} (account : Account p task w.files known told)
    (keeps : p.emitter.KeepsFiles) (hl : w.files.Linkless) (hs : ∀ input, known input .read)
    (hi : Discovery.inputs w.files input = .ok inputs) : (Ends p task w input r w') →
    List.Forall₂ (fun input item => (item.input = input) ∧ (told input item.outcome)) inputs r.items
  | .intro discovered steps done => by
    obtain rfl := Except.ok.inj (hi.symm.trans discovered)
    exact (Progress.accounted_start .refl (fun _ _ => rfl) hs).steps account keeps hl (apart_of_inputs hi) steps |>.items done

end ModelForge.Batch
