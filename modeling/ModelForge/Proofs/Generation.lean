import ModelForge.Generation
import ModelForge.Proofs.FileSystem.Write
import ModelForge.Proofs.Output
import ModelForge.Proofs.Text.Lines

namespace ModelForge

-- The emitter may look at the files, but it leaves all of them as they are.
def Emitter.KeepsFiles (e : Emitter) : Prop :=
  ∀ fs r, (e fs r).snd = fs

theorem Emitter.ofReply_keepsFiles (f : Request → Reply) : (ofReply f).KeepsFiles :=
  fun _ _ => rfl

namespace Emitter.OfRequest

variable {e : Emitter}

theorem keepsFiles : (e.OfRequest) → e.KeepsFiles
  | ⟨f, hf⟩ => hf ▸ ofReply_keepsFiles f

theorem reply_eq : (e.OfRequest) → ∀ fs fs' r, (e fs r).fst = (e fs' r).fst
  | ⟨_, hf⟩ => fun _ _ _ => by rw [hf]; rfl

end Emitter.OfRequest

namespace Action

variable {α β : Type} {w w' : World}

@[simp]
theorem runIn_pure (a : α) : runIn (pure a) w = (.ok a, w) := rfl

@[simp]
theorem runIn_throw (h : Halt) : runIn (throw h : Action α) w = (.error h, w) := rfl

@[simp]
theorem runIn_get : runIn (get : Action World) w = (.ok w, w) := rfl

@[simp]
theorem runIn_set : runIn (set w' : Action PUnit) w = (.ok ⟨⟩, w') := rfl

@[simp]
theorem runIn_ofExcept (a : Except GenerationError α) : runIn (ofExcept a) w = (a.mapError .error, w) := by
  cases a <;> rfl

theorem runIn_bind (a : Action α) (f : α → Action β) : runIn (a >>= f) w =
    match runIn a w with
    | (.ok x, w') => runIn (f x) w'
    | (.error h, w') => (.error h, w') := by
  have hb : runIn (a >>= f) w = StateT.run (StateT.bind (ExceptT.run a) (ExceptT.bindCont f)) w := rfl
  rw [hb]
  change (match runIn a w with | (r, w') => StateT.run (ExceptT.bindCont f r) w') = _
  rcases h : runIn a w with ⟨_ | _, _⟩ <;> rfl

theorem runIn_bind_ok {a : Action α} {f : α → Action β} {b : β} (h : runIn (a >>= f) w = (.ok b, w')) :
    ∃ x w₁, (runIn a w = (.ok x, w₁)) ∧ (runIn (f x) w₁ = (.ok b, w')) := by
  rw [runIn_bind] at h
  split at h
  case h_1 x w₁ ha => exact ⟨x, w₁, ha, h⟩
  case h_2 => simp at h

theorem runIn_bind_error {a : Action α} {f : α → Action β} {h : Halt}
    (hr : runIn (a >>= f) w = (.error h, w')) : (runIn a w = (.error h, w')) ∨
      ∃ x w₁, (runIn a w = (.ok x, w₁)) ∧ (runIn (f x) w₁ = (.error h, w')) := by
  rw [runIn_bind] at hr
  split at hr
  case h_1 x w₁ ha => exact .inr ⟨x, w₁, ha, hr⟩
  case h_2 ha => exact .inl (by simpa [ha] using hr)

-- Work that changes nothing.
def Still (a : Action α) : Prop :=
  ∀ w, (runIn a w).snd = w

-- Work that leaves the files as they are, whatever it comes to.
def Quiet (a : Action α) : Prop :=
  ∀ w, (runIn a w).snd.files = w.files

theorem Still.quiet {a : Action α} (h : Still a) : Quiet a :=
  fun w => congrArg World.files (h w)

theorem Still.bind {a : Action α} {f : α → Action β} (ha : Still a) (hf : ∀ x, Still (f x)) :
    Still (a >>= f) := by
  intro w
  have hw := ha w
  rw [runIn_bind]
  split
  case h_1 x w' h => rw [hf x w', ← hw, h]
  case h_2 h => rw [← hw, h]

theorem still_pure (a : α) : Still (pure a : Action α) := fun _ => rfl

theorem still_ofExcept (a : Except GenerationError α) : Still (ofExcept a) := fun _ => by simp

theorem Quiet.files_eq {a : Action α} {r : Except Halt α} (ha : Quiet a) (h : runIn a w = (r, w')) :
    w'.files = w.files := by
  simpa [h] using ha w

end Action

namespace Document

theorem path_of_read {fs : FileSystem} {input : Path} {d : Document} (h : read fs input = .ok d) :
    d.path = input := by
  simp only [read] at h
  split at h <;> cases h
  rfl

end Document

namespace Job

variable {job : Job} {d : Document} {l : Language} {directory : Option Path} {emitter : Emitter}
  {ls : List String} {w w' : World} {file : WrittenFile}

theorem of_ok (h : Job.of d l directory = .ok job) :
    (job.document = d) ∧ (job.language = l) ∧ (TypeName.ofPath? d.path = some job.typeName) ∧
      (job.output = Output.path d.path directory job.typeName.text l.extension) := by
  simp only [Job.of] at h
  split at h <;> cases h
  exact ⟨rfl, rfl, ‹_›, rfl⟩

-- The output lies in the directory that has to be there, under a name of its own.
theorem output_eq (h : Job.of d l directory = .ok job) : ∃ n, (IsOutputName n) ∧
    (job.output = (Output.directory d.path directory).join ⟨n⟩) ∧
    (job.directory = (Output.directory d.path directory).trimmed) := by
  have ⟨_, _, hn, ho⟩ := of_ok h
  refine ⟨_, Output.isOutputName_of_ofPath? hn l, ho, ?_⟩
  rw [Job.directory, ho, Output.parent?_path hn, Option.getD_some]

theorem schema_of_request {request : Request} (h : job.request = .ok request) :
    job.document.schemaText = .ok request.schema := by
  delta Job.request at h
  cases hs : job.document.schemaText <;> simp only [hs] at h <;> cases h
  rfl

-- What is reported of a job that is done.
def result (job : Job) (ls : List String) : WrittenFile :=
  ⟨job.output, job.typeName, job.language, ls.length⟩

-- What the emitter's reply means for the work.
def replied (job : Job) : Reply → Except Halt (List String)
  | .lines ls => .ok ls
  | .error e => .error (.error (.emissionFailed job.document.path e))
  | .panic => .error .panic

theorem runIn_emit_eq : (job.emit emitter).runIn w =
    match job.request with
    | .ok r => (job.replied (emitter w.files r).fst, ⟨(emitter w.files r).snd, w.calls ++ [r]⟩)
    | .error e => (.error (.error e), w) := by
  simp only [emit, Action.runIn_bind, Action.runIn_ofExcept, Except.mapError]
  cases job.request with
  | error => rfl
  | ok r => rcases he : emitter w.files r with ⟨_ | _ | _, files⟩ <;> simp_all [replied]

theorem runIn_emit (keeps : emitter.KeepsFiles) : (job.emit emitter).runIn w =
    match job.request with
    | .ok r => (job.replied (emitter w.files r).fst, { w with calls := w.calls ++ [r] })
    | .error e => (.error (.error e), w) := by
  rw [runIn_emit_eq]
  cases job.request with
  | error => rfl
  | ok r => simp only [keeps w.files r]

theorem runIn_checkDirectory : job.checkDirectory.runIn w =
    (if w.files.isDirectory job.directory then .ok ()
      else .error (.error (.directoryNotFound job.directory)), w) := by
  simp only [checkDirectory, Action.runIn_bind, Action.runIn_get]
  by_cases h : w.files.isDirectory job.directory <;> simp [h]

theorem runIn_write : (job.write ls).runIn w =
    match w.files.write job.output (contentOf ls) with
    | .ok files => (.ok ⟨job.output, job.typeName, job.language, ls.length⟩, { w with files })
    | .error e => (.error (.error (.notWritten job.output e)), w) := by
  simp only [write, Action.runIn_bind, Action.runIn_get]
  cases w.files.write job.output (contentOf ls) <;> rfl

-- What is left to do when the emitter has answered with lines.
theorem runIn_run_of_lines {request : Request} {fs : FileSystem} (hq : job.request = .ok request)
    (he : emitter w.files request = (.lines ls, fs)) : (job.run emitter).runIn w =
      if fs.isDirectory job.directory then (job.write ls).runIn ⟨fs, w.calls ++ [request]⟩
      else (.error (.error (.directoryNotFound job.directory)), ⟨fs, w.calls ++ [request]⟩) := by
  simp only [run, Action.runIn_bind, runIn_emit_eq, hq, he, replied, runIn_checkDirectory]
  by_cases hd : fs.isDirectory job.directory <;> simp [hd]

theorem emit_quiet (keeps : emitter.KeepsFiles) : Action.Quiet (job.emit emitter) := by
  intro w
  rw [runIn_emit keeps]
  cases job.request <;> rfl

theorem checkDirectory_quiet : Action.Quiet job.checkDirectory := by
  intro w
  rw [runIn_checkDirectory]

theorem replied_ok {reply : Reply} (h : job.replied reply = .ok ls) : reply = .lines ls := by
  cases reply <;> cases h
  rfl

theorem emit_ok (keeps : emitter.KeepsFiles) (h : (job.emit emitter).runIn w = (.ok ls, w')) :
    ∃ request, (job.request = .ok request) ∧ ((emitter w.files request).fst = .lines ls) ∧
      (w' = { w with calls := w.calls ++ [request] }) := by
  rw [runIn_emit keeps] at h
  split at h
  case h_1 r hr =>
    have ⟨hl, hw⟩ := Prod.mk.inj h
    exact ⟨r, hr, replied_ok hl, hw.symm⟩
  case h_2 => simp at h

theorem checkDirectory_ok (h : job.checkDirectory.runIn w = (.ok (), w')) :
    (w.files.isDirectory job.directory) ∧ (w' = w) := by
  rw [runIn_checkDirectory] at h
  split at h <;> cases h
  exact ⟨‹_›, rfl⟩

theorem write_ok (h : (job.write ls).runIn w = (.ok file, w')) :
    (w.files.write job.output (contentOf ls) = .ok w'.files) ∧ (w'.calls = w.calls) ∧
      (file = job.result ls) := by
  rw [runIn_write] at h
  split at h <;> cases h
  exact ⟨‹_›, rfl, rfl⟩

theorem write_error {h : Halt} (hr : (job.write ls).runIn w = (.error h, w')) : w' = w := by
  rw [runIn_write] at hr
  split at hr <;> cases hr
  rfl

theorem run_error {h : Halt} (keeps : emitter.KeepsFiles) (hr : (job.run emitter).runIn w = (.error h, w')) :
    w'.files = w.files := by
  rcases Action.runIn_bind_error hr with he | ⟨ls, w₁, he, hr⟩
  case inl => exact (emit_quiet keeps).files_eq he
  rcases Action.runIn_bind_error hr with hd | ⟨_, w₂, hd, hr⟩
  case inl => rw [checkDirectory_quiet.files_eq hd, (emit_quiet keeps).files_eq he]
  rw [write_error hr, checkDirectory_quiet.files_eq hd, (emit_quiet keeps).files_eq he]

theorem run_ok (keeps : emitter.KeepsFiles) (hr : (job.run emitter).runIn w = (.ok file, w')) :
    ∃ request ls, (job.request = .ok request) ∧ ((emitter w.files request).fst = .lines ls) ∧
      (w.files.write job.output (contentOf ls) = .ok w'.files) ∧ (w'.calls = w.calls ++ [request]) ∧
      (file = job.result ls) := by
  have ⟨ls, w₁, he, hr⟩ := Action.runIn_bind_ok hr
  have ⟨_, w₂, hd, hr⟩ := Action.runIn_bind_ok hr
  obtain ⟨request, hq, hl, rfl⟩ := emit_ok keeps he
  obtain ⟨_, rfl⟩ := checkDirectory_ok hd
  have ⟨hw, hc, hf⟩ := write_ok hr
  exact ⟨request, ls, hq, hl, hw, hc, hf⟩

end Job

-- The whole content of a file with these lines.
def Text.joined (ls : List String) : Bytes :=
  Text.Utf8.encode <| List.intercalate ['\n'] <| ls.map String.toList

theorem Job.contentOf_eq (ls : List String) : contentOf ls = Text.joined ls := by
  rw [contentOf, Text.unlines_eq, Text.joined]

-- All that a written file stands for: where it is, what is in it, and that nothing else has changed.
inductive Wrote (p : Pipeline) (input : Path) (directory : Option Path) (w w' : World) (file : WrittenFile) : Prop
  | intro {d : Document} {request : Request} {ls : List String} {l : Location}
    (path    : file.path = Output.path input directory file.typeName.text file.language.extension)
    (read    : Document.read w.files input = .ok d)
    (schema  : d.schemaText = .ok request.schema)
    (call    : w'.calls = w.calls ++ [request])
    (reply   : (p.emitter w.files request).fst = .lines ls)
    (lines   : file.lines = ls.length)
    (written : w.files.OnlyFile w'.files file.path l (Text.joined ls))

-- Work that has written one file if it succeeded, and none if it did not.
def AllOrOneFile (p : Pipeline) (input : Path) (directory : Option Path) (w : World) :
    Except Halt WrittenFile × World → Prop
  | (.ok file, w') => Wrote p input directory w w' file
  | (.error _, w') => w'.files = w.files

namespace Pipeline

variable {p : Pipeline} {input : Path} {directory : Option Path} {w w' : World} {d : Document}

theorem runIn_readDocument : (readDocument input).runIn w =
    (((Document.read w.files input).mapError .document).mapError .error, w) := by
  simp [readDocument, Action.runIn_bind]

theorem runIn_requireValid : (p.requireValid d).runIn w =
    (match p.grammar.validateDocument d with
      | .valid => .ok ()
      | .invalid vs => .error (.error (.invalidModel d.path vs)), w) := by
  delta requireValid
  cases p.grammar.validateDocument d <;> rfl

theorem load_still : Action.Still (p.load input) := by
  refine .bind (fun w => by rw [runIn_readDocument]) fun d => ?_
  refine .bind (fun w => by rw [runIn_requireValid]) fun _ => ?_
  exact Action.still_pure d

theorem load_ok (h : (p.load input).runIn w = (.ok d, w')) :
    (Document.read w.files input = .ok d) ∧ (p.grammar.validateDocument d = .valid) := by
  have ⟨d', w₁, hr, h⟩ := Action.runIn_bind_ok h
  have ⟨_, w₂, hv, h⟩ := Action.runIn_bind_ok h
  cases h
  rw [runIn_readDocument] at hr
  rw [runIn_requireValid] at hv
  constructor
  · cases hd : Document.read w.files input <;> simp_all [Except.mapError]
  · cases hg : p.grammar.validateDocument d <;> simp_all

-- Work that decides on a job, and changes nothing yet.
structure Prepares (p : Pipeline) (input : Path) (directory : Option Path) (a : Action Job) : Prop where
  still : Action.Still a
  job {w w' : World} {job : Job} : (a.runIn w = (.ok job, w')) →
    ∃ d l, (Document.read w.files input = .ok d) ∧ (Job.of d l directory = .ok job)

theorem Prepares.run {a : Action Job} (h : Prepares p input directory a) (keeps : p.emitter.KeepsFiles) :
    AllOrOneFile p input directory w ((a >>= Job.run p.emitter).runIn w) := by
  rcases hr : (a >>= Job.run p.emitter).runIn w with ⟨_ | file, w'⟩
  case error =>
    rcases Action.runIn_bind_error hr with ha | ⟨job, w₁, ha, hr⟩
    case inl => exact h.still.quiet.files_eq ha
    case inr => rw [AllOrOneFile, Job.run_error keeps hr, h.still.quiet.files_eq ha]
  case ok =>
    have ⟨job, w₁, ha, hb⟩ := Action.runIn_bind_ok hr
    obtain rfl : w₁ = w := by simpa [ha] using h.still w
    have ⟨d, l, hd, hj⟩ := h.job ha
    obtain ⟨request, ls, hq, hl, hw, hc, rfl⟩ := Job.run_ok keeps hb
    obtain ⟨rfl, rfl, _, ho⟩ := Job.of_ok hj
    have ⟨_, hw⟩ := FileSystem.write_onlyFile hw
    rw [Job.contentOf_eq] at hw
    exact .intro (Document.path_of_read hd ▸ ho) hd (Job.schema_of_request hq) hc hl rfl hw

theorem prepares_for (p : Pipeline) (input : Path) (directory : Option Path) (l : Language) :
    Prepares p input directory (do .ofExcept (Job.of (← p.load input) l directory)) where
  still := load_still.bind fun _ => Action.still_ofExcept _
  job h := by
    have ⟨d, w₁, hd, h⟩ := Action.runIn_bind_ok h
    exact ⟨d, l, (load_ok hd).left, by cases hj : Job.of d l directory <;> simp_all [Except.mapError]⟩

theorem prepares_token (p : Pipeline) (input : Path) (directory : Option Path) (token : String) :
    Prepares p input directory (do
      let d ← p.load input
      let l ← .ofExcept ((Language.resolve token).mapError .unsupportedLanguage)
      .ofExcept (Job.of d l directory)) where
  still := load_still.bind fun _ => (Action.still_ofExcept _).bind fun _ => Action.still_ofExcept _
  job h := by
    have ⟨d, w₁, hd, h⟩ := Action.runIn_bind_ok h
    have ⟨l, w₂, _, h⟩ := Action.runIn_bind_ok h
    exact ⟨d, l, (load_ok hd).left, by cases hj : Job.of d l directory <;> simp_all [Except.mapError]⟩

theorem generate_allOrOneFile (keeps : p.emitter.KeepsFiles) (w : World) (input : Path) (directory : Option Path) :
    (∀ token, AllOrOneFile p input directory w ((p.generate input directory token).runIn w)) ∧
      (∀ l, AllOrOneFile p input directory w ((p.generateFor input directory l).runIn w)) := by
  constructor
  · intro token
    simpa [generate] using (prepares_token p input directory token).run keeps
  · intro l
    simpa [generateFor] using (prepares_for p input directory l).run keeps

-- A model without properties.
def smallModel : Bytes :=
  Text.Utf8.encode "\x7b\"type\": \"object\", \"properties\": \x7b\x7d\x7d".toList

theorem generate_allOrOneFile_user :
    let p : Pipeline := ⟨.bundled, .ofReply fun r => .lines ["class " ++ r.typeName.text ++ ":", "    pass"]⟩
    let w : World := ⟨{ entries := [(["User.json"], .file smallModel false), (["out"], .directory)] }, []⟩
    (p.emitter.KeepsFiles) ∧
      (AllOrOneFile p ⟨"User.json"⟩ (some ⟨"out"⟩) w ((p.generate ⟨"User.json"⟩ (some ⟨"out"⟩) "python").runIn w)) ∧
      (AllOrOneFile p ⟨"User.json"⟩ (some ⟨"out"⟩) w ((p.generateFor ⟨"User.json"⟩ (some ⟨"out"⟩) .python).runIn w)) :=
  ⟨Emitter.ofReply_keepsFiles _,
    (generate_allOrOneFile (Emitter.ofReply_keepsFiles _) _ _ _).left _,
    (generate_allOrOneFile (Emitter.ofReply_keepsFiles _) _ _ _).right _⟩

end Pipeline

end ModelForge
