import ModelForge.Proofs.Batch.Fitting
import ModelForge.Proofs.Batch.Schedule
import ModelForge.Run

namespace ModelForge.Run

-- What is known of a run when nothing has been printed yet.
inductive Conclusion
  | rejected (rejection : Rejection)
  | reported (report : Report)
  | unlisted (cause : BatchError)

namespace Conclusion

def printed (format : ReportFormat) : Conclusion → Except BatchError Printed
  | rejected rejection => .ok (reject rejection format)
  | reported report => .ok (print report format)
  | unlisted cause => .error cause

def items : Conclusion → List Item
  | rejected _ => []
  | reported report => report.items
  | unlisted _ => []

-- The exit code, in every format.
def code : Conclusion → Except BatchError Nat
  | rejected _ => .ok Exit.failed
  | reported report => .ok (if report.allPassed then Exit.ok else Exit.failed)
  | unlisted cause => .error cause

theorem code_printed (c : Conclusion) (format : ReportFormat) : (c.printed format).map (·.code) = c.code := by
  cases c <;> rfl

end Conclusion

-- What a request to generate comes to before the input is looked at.
def asked (token : Option String) (directory : Option Path) : Except Rejection Task :=
  match token with
  | none => .error .missingLanguage
  | some token =>
    match Language.resolve token with
    | .error e => .error (.ofLanguage (some e))
    | .ok l => .ok (.generate l directory)

-- What a run can come to: its items go on in any order.
inductive Concludes (p : Pipeline) (w : World) (input : Path) : Except Rejection Task → Conclusion → World → Prop
  | refused {rejection : Rejection} : Concludes p w input (.error rejection) (.rejected rejection) w
  | missing {task : Task} {path : Path}
    (undiscovered : Discovery.inputs w.files input = .error (.pathNotFound path)) :
    Concludes p w input (.ok task) (.rejected (.pathNotFound path)) w
  | unlisted {task : Task} {path : Path} {cause : FileError}
    (undiscovered : Discovery.inputs w.files input = .error (.notListed path cause)) :
    Concludes p w input (.ok task) (.unlisted (.notListed path cause)) w
  | reported {task : Task} {report : Report} {w' : World} (ends : Batch.Ends p task w input report w') :
    Concludes p w input (.ok task) (.reported report) w'

-- What the exit code of a run tells, and when nothing has been done. A run that is not `accepted` is one
-- that is refused for what it asks for, and `Done` is what every item is to come to.
structure Contract (w : World) (input : Path) (accepted : Prop) (Done : Outcome → Prop) (c : Conclusion)
    (w' : World) : Prop where
  anyFormat  : ∀ format format', (c.printed format).map (·.code) = (c.printed format').map (·.code)
  ok_iff     : ∀ format, (c.printed format).map (·.code) = .ok 0 ↔
    accepted ∧ w.files.exists input ∧ (w.files.isDirectory input → ∃ names, w.files.list input = .ok names) ∧
      ∀ item ∈ c.items, Done item.outcome
  failed_iff : ∀ format, (c.printed format).map (·.code) = .ok 1 ↔
    ¬accepted ∨ ¬w.files.exists input ∨ ∃ item ∈ c.items, ¬item.outcome.isSuccess
  error_iff  : ∀ format e, c.printed format = .error e ↔
    accepted ∧ w.files.isDirectory input ∧ ∃ cause, w.files.list input = .error cause ∧ e = .notListed input cause
  items      : ∀ inputs, accepted → Discovery.inputs w.files input = .ok inputs → c.items.map (·.input) = inputs
  unchanged  : ¬accepted ∨ ¬w.files.exists input → w' = w

variable {p : Pipeline} {w w' : World} {input : Path} {request : Except Rejection Task} {c : Conclusion}

-- The handlers come to one of the conclusions, whatever the format: that of the items one by one.
theorem batch_concludes (p : Pipeline) (task : Task) (w : World) (input : Path) :
    ∃ c w', (Concludes p w input (.ok task) c w') ∧
      (∀ format, batch p task w input format = (c.printed format, w')) := by
  simp only [batch, Batch.run]
  cases hi : Discovery.inputs w.files input with
  | ok inputs => exact ⟨_, _, .reported (.sequential hi), fun _ => rfl⟩
  | error e =>
    cases e with
    | pathNotFound path => exact ⟨_, _, .missing hi, fun _ => rfl⟩
    | notListed path cause => exact ⟨_, _, .unlisted hi, fun _ => rfl⟩

theorem generate_concludes (p : Pipeline) (w : World) (input : Path) (token : Option String) (directory : Option Path) :
    ∃ c w', (Concludes p w input (asked token directory) c w') ∧
      (∀ format, generate p w input token directory format = (c.printed format, w')) := by
  cases token with
  | none => exact ⟨_, _, .refused, fun _ => rfl⟩
  | some token =>
    simp only [generate, asked]
    cases Language.resolve token with
    | error e => exact ⟨_, _, .refused, fun _ => rfl⟩
    | ok l => exact batch_concludes p (.generate l directory) w input

theorem allPassed_iff (input : Path) {items : List Item} :
    (Report.ofItems input items).allPassed ↔ ∀ item ∈ items, item.outcome.isSuccess := by
  simp [Report.allPassed, Batch.failed_ofItems]

theorem code_reported_ok {items : List Item} :
    (Conclusion.reported (.ofItems input items)).code = .ok 0 ↔ ∀ item ∈ items, item.outcome.isSuccess := by
  rw [Conclusion.code, ← allPassed_iff input]
  cases (Report.ofItems input items).allPassed <;> simp [Exit.ok, Exit.failed]

theorem code_reported_failed {items : List Item} :
    (Conclusion.reported (.ofItems input items)).code = .ok 1 ↔ ∃ item ∈ items, ¬item.outcome.isSuccess := by
  rw [Conclusion.code, ← Decidable.not_iff_not, not_exists]
  simp only [not_and, Decidable.not_not]
  rw [← allPassed_iff input]
  cases (Report.ofItems input items).allPassed <;> simp [Exit.ok, Exit.failed]

namespace Contract

variable {accepted : Prop} {Done : Outcome → Prop}

theorem refused {rejection : Rejection} (hn : ¬accepted) :
    Contract w input accepted Done (.rejected rejection) w where
  anyFormat := by simp [Conclusion.code_printed]
  ok_iff := by simp [Conclusion.code_printed, Conclusion.code, hn, Exit.failed]
  failed_iff := by simp [Conclusion.code_printed, Conclusion.code, hn, Exit.failed]
  error_iff := by simp [Conclusion.printed, hn]
  items _ h := absurd h hn
  unchanged _ := rfl

theorem missing {path : Path} (hi : Discovery.inputs w.files input = .error (.pathNotFound path)) :
    Contract w input accepted Done (.rejected (.pathNotFound path)) w := by
  have .missing hn := Discovery.discovered hi
  have hd : ¬w.files.isDirectory input := mt FileSystem.exists_of_isDirectory hn
  exact {
    anyFormat := by simp [Conclusion.code_printed]
    ok_iff := by simp [Conclusion.code_printed, Conclusion.code, hn, Exit.failed]
    failed_iff := by simp [Conclusion.code_printed, Conclusion.code, hn, Exit.failed]
    error_iff := by simp [Conclusion.printed, hd]
    items _ _ h := by simp [hi] at h
    unchanged _ := rfl }

theorem unlisted {path : Path} {cause : FileError} (ha : accepted)
    (hi : Discovery.inputs w.files input = .error (.notListed path cause)) :
    Contract w input accepted Done (.unlisted (.notListed path cause)) w := by
  have .unlisted hd hl := Discovery.discovered hi
  have he := FileSystem.exists_of_isDirectory hd
  exact {
    anyFormat := by simp [Conclusion.code_printed]
    ok_iff := by simp [Conclusion.code_printed, Conclusion.code, hd, hl]
    failed_iff := by simp [Conclusion.code_printed, Conclusion.code, Conclusion.items, ha, he]
    error_iff := by simp [Conclusion.printed, ha, hd, hl, eq_comm]
    items _ _ h := by simp [hi] at h
    unchanged _ := rfl }

-- The code tells whether the items are done, as far as being done is being a success.
theorem reported {task : Task} {report : Report} (ha : accepted) (hd : ∀ o, o.Fits task → (Done o ↔ o.isSuccess))
    (ends : Batch.Ends p task w input report w') : Contract w input accepted Done (.reported report) w' := by
  obtain ⟨items, rfl, hi, fits, _⟩ := ends.fits
  have .listed he hl := Discovery.discovered hi
  exact {
    anyFormat := by simp [Conclusion.code_printed]
    ok_iff format := by
      rw [Conclusion.code_printed, code_reported_ok, and_iff_right ha, and_iff_right he, and_iff_right hl]
      exact forall₂_congr fun item hm => (hd _ (fits item hm)).symm
    failed_iff format := by
      rw [Conclusion.code_printed, code_reported_failed, or_iff_right (not_not_intro ha),
        or_iff_right (not_not_intro he)]
      rfl
    error_iff format e := by
      refine iff_of_false nofun ?_
      rintro ⟨_, hd, cause, hc, _⟩
      obtain ⟨names, hn⟩ := hl hd
      simp [hn] at hc
    items inputs _ h := Except.ok.inj (hi.symm.trans h)
    unchanged hu := by simp_all }

end Contract

theorem Concludes.contract {accepted : Prop} {Done : Outcome → Prop} (h : Concludes p w input request c w')
    (ha : accepted ↔ ∃ task, request = .ok task)
    (hd : ∀ task o, (request = .ok task) → (o.Fits task) → (Done o ↔ o.isSuccess)) :
    Contract w input accepted Done c w' := by
  cases h with
  | refused => exact .refused (by simp [ha])
  | missing hi => exact .missing hi
  | unlisted hi => exact .unlisted (ha.mpr ⟨_, rfl⟩) hi
  | reported ends => exact .reported (ha.mpr ⟨_, rfl⟩) (hd _ · rfl) ends

-- Validation leaves the world alone.
theorem Concludes.world_eq : (Concludes p w input (.ok .validate) c w') → w' = w
  | .missing _ | .unlisted _ => rfl
  | .reported ends => have ⟨_, _, _, _, hw⟩ := ends.fits; hw rfl

theorem asked_iff {token : Option String} {directory : Option Path} :
    (∃ t l, token = some t ∧ Language.resolve t = .ok l) ↔ ∃ task, asked token directory = .ok task := by
  cases token with
  | none => simp [asked]
  | some t => cases h : Language.resolve t <;> simp [asked, h]

theorem task_of_asked {token : Option String} {directory : Option Path} {task : Task}
    (h : asked token directory = .ok task) : ∃ l, task = .generate l directory := by
  simp only [asked] at h
  split at h <;> try contradiction
  case h_2 =>
    split at h <;> cases h
    exact ⟨_, rfl⟩

section EmptyDirectory

open FileSystem

def emptyDirectory : FileSystem where
  entries := [(["models"], .directory)]

theorem resolve_emptyDirectory : emptyDirectory.resolve ⟨"models"⟩ = .ok (.entry ["models"] .directory) := by
  have w : Walks emptyDirectory linkLimit [] ["models"] (.entry ["models"] .directory) :=
    .down ⟨rfl, rfl⟩ ⟨by decide, by decide, by decide⟩ rfl (by simp) (.arrive rfl)
  exact resolve_ok_iff.mpr ⟨by decide, by decide, by decide, w⟩

theorem inputs_emptyDirectory : Discovery.inputs emptyDirectory ⟨"models"⟩ = .ok [] := by
  rw [Discovery.inputs_of_directory resolve_emptyDirectory]
  simp [Discovery.modelsIn, emptyDirectory, childNames, allows]

end EmptyDirectory

end ModelForge.Run
