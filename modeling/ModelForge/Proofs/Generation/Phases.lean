import ModelForge.Proofs.Document

namespace ModelForge

-- The phases of generation by a token, in their order.
inductive Phase
  | read
  | validate
  | resolve
  | name
  | emit
  | check
  | write

-- The number of phases before.
def Phase.rank : Phase → Nat
  | read => 0
  | validate => 1
  | resolve => 2
  | name => 3
  | emit => 4
  | check => 5
  | write => 6

-- All that generation by a token starts from.
structure Start where
  pipeline  : Pipeline
  world     : World
  input     : Path
  directory : Option Path
  token     : String

namespace Start

def run (g : Start) : Except Halt WrittenFile × World :=
  (g.pipeline.generate g.input g.directory g.token).runIn g.world

def runFor (g : Start) (l : Language) : Except Halt WrittenFile × World :=
  (g.pipeline.generateFor g.input g.directory l).runIn g.world

-- The document is readable and valid.
structure Loads (g : Start) (d : Document) : Prop where
  read  : Document.read g.world.files g.input = .ok d
  valid : g.pipeline.grammar.validateDocument d = .valid

-- The emitter has to be asked, and what.
inductive Asks (g : Start) (request : Request) : Prop
  | intro (loads : g.Loads d) (resolves : Language.resolve g.token = .ok request.language)
    (named : TypeName.ofPath? g.input = some request.typeName) (schema : d.schemaText = .ok request.schema)

-- What the emitter answers, and the files that it leaves.
def reply (g : Start) (request : Request) : Reply := (g.pipeline.emitter g.world.files request).fst

def filesAfter (g : Start) (request : Request) : FileSystem := (g.pipeline.emitter g.world.files request).snd

def outputDirectory (g : Start) : Path := (Output.directory g.input g.directory).trimmed

def output (g : Start) (request : Request) : Path :=
  Output.path g.input g.directory request.typeName.text request.language.extension

-- What a phase fails with where it has all that it needs, whatever other phases do.
inductive Fails (g : Start) : Phase → Halt → Prop
  | read (unread : Document.read g.world.files g.input = .error e) : Fails g .read (.error (.document e))
  | validate (read : Document.read g.world.files g.input = .ok d)
    (invalid : g.pipeline.grammar.validateDocument d = .invalid vs) :
    Fails g .validate (.error (.invalidModel g.input vs))
  | resolve (unresolved : Language.resolve g.token = .error e) : Fails g .resolve (.error (.unsupportedLanguage e))
  | name (unnamed : TypeName.ofPath? g.input = none) : Fails g .name (.error (.noTypeName g.input))
  | emit (asks : g.Asks request) (refuses : g.reply request = .error e) :
    Fails g .emit (.error (.emissionFailed g.input e))
  | emitPanic (asks : g.Asks request) (panics : g.reply request = .panic) : Fails g .emit .panic
  | check (asks : g.Asks request) (missing : ¬(g.filesAfter request).isDirectory g.outputDirectory) :
    Fails g .check (.error (.directoryNotFound g.outputDirectory))
  | write (asks : g.Asks request) (answers : g.reply request = .lines ls)
    (unwritten : (g.filesAfter request).write (g.output request) (Text.joined ls) = .error e) :
    Fails g .write (.error (.notWritten (g.output request) e))

-- Phases behind it may fail as well, phases before it do not.
structure FailsFirst (g : Start) (s : Phase) (h : Halt) : Prop where
  fails  : g.Fails s h
  before : ∀ s' h', s'.rank < s.rank → ¬g.Fails s' h'

-- What generation comes to, by the phases that fail.
inductive Stops (g : Start) : Except Halt WrittenFile → Prop
  | failed (first : g.FailsFirst s h) : Stops g (.error h)
  | done (passes : ∀ s h, ¬g.Fails s h) : Stops g (.ok file)

-- Starts that look the same to all phases up to one.
structure Agree (s : Phase) (g g' : Start) : Prop where
  input     : g'.input = g.input
  read      : Document.read g'.world.files g.input = Document.read g.world.files g.input
  grammar   : Phase.rank .validate ≤ s.rank →
                g'.pipeline.grammar.validateDocument = g.pipeline.grammar.validateDocument
  token     : Phase.rank .resolve ≤ s.rank → Language.resolve g'.token = Language.resolve g.token
  reply     : Phase.rank .emit ≤ s.rank → g'.reply = g.reply
  files     : Phase.rank .check ≤ s.rank → g'.filesAfter = g.filesAfter
  directory : Phase.rank .check ≤ s.rank → g'.directory = g.directory

-- How the phases of generation stand to each other.
structure Ordered (g : Start) : Prop where
  failure    : ∀ h, (g.run.fst = .error h) ↔ (∃ s, g.FailsFirst s h)
  success    : (∃ file, g.run.fst = .ok file) ↔ (∀ s h, ¬g.Fails s h)
  later      : ∀ s h g', (g.FailsFirst s h) → (Agree s g g') → g'.run.fst = .error h
  invalid    : ∀ d vs, (Document.read g.world.files g.input = .ok d) →
                 (g.pipeline.grammar.validateDocument d = .invalid vs) → ∀ directory token,
                 { g with directory, token }.run = (.error (.error (.invalidModel g.input vs)), g.world)
  asks       : (∃ request, g.Asks request) ↔ (∃ d, g.Loads d) ∧ (∃ l, Language.resolve g.token = .ok l) ∧
                 (∃ name, TypeName.ofPath? g.input = some name)
  asked      : ∀ request, (g.Asks request) → g.run.snd.calls = g.world.calls ++ [request]
  unasked    : (¬∃ request, g.Asks request) → g.run.snd = g.world
  unwritten  : ∀ request h, (g.Asks request) → (g.run.fst = .error h) → g.run.snd.files = g.filesAfter request
  written    : ∀ request file, (g.Asks request) → (g.run.fst = .ok file) →
                 ∃ ls, (g.reply request = .lines ls) ∧
                   ((g.filesAfter request).write (g.output request) (Text.joined ls) = .ok g.run.snd.files)
  resolved   : ∀ l, (Language.resolve g.token = .ok l) → g.run = g.runFor l
  unresolved : ∀ e, (Language.resolve g.token = .error e) →
                 ((∃ d, g.Loads d) →
                   g.run = (.error (.error (.unsupportedLanguage ⟨g.token⟩)), g.world)) ∧
                 ((¬∃ d, g.Loads d) →
                   ∃ h, (g.run = (.error h, g.world)) ∧ (∀ l, g.runFor l = (.error h, g.world)))

variable {g g' : Start} {d d' : Document} {request request' : Request} {s s' : Phase} {h h' : Halt} {l : Language}

theorem Loads.unique (hd : g.Loads d) (hd' : g.Loads d') : d = d' :=
  Except.ok.inj (hd.read.symm.trans hd'.read)

theorem Asks.unique : (g.Asks request) → (g.Asks request') → request = request'
  | .intro hd hl hn hs, .intro hd' hl' hn' hs' => by
    obtain rfl := hd.unique hd'
    have hl := Except.ok.inj (hl.symm.trans hl')
    have hn := Option.some.inj (hn.symm.trans hn')
    have hs := Except.ok.inj (hs.symm.trans hs')
    cases request
    cases request'
    simp_all

-- Nothing else than the document, the token and the name of the file is asked for.
theorem asks_iff : (∃ request, g.Asks request) ↔
    (∃ d, g.Loads d) ∧ (∃ l, Language.resolve g.token = .ok l) ∧ (∃ name, TypeName.ofPath? g.input = some name) := by
  constructor
  · intro ⟨_, .intro hd hl hn _⟩
    exact ⟨⟨_, hd⟩, ⟨_, hl⟩, ⟨_, hn⟩⟩
  · intro ⟨⟨d, hd⟩, ⟨l, hl⟩, ⟨name, hn⟩⟩
    have ⟨_, hp⟩ := Document.parsed_of_valid hd.valid
    have ⟨text, hs⟩ := Document.schemaText_of_parsed hp
    exact ⟨⟨name, l, text⟩, .intro hd hl hn hs⟩

namespace Fails

-- A phase has one way to fail.
theorem unique (hf : g.Fails s h) (hf' : g.Fails s h') : h = h' := by
  cases hf with
  | read he => cases hf' with | read he' => cases he.symm.trans he'; rfl
  | validate hr he =>
    cases hf' with
    | validate hr' he' =>
      obtain rfl := Except.ok.inj (hr.symm.trans hr')
      cases he.symm.trans he'
      rfl
  | resolve he => cases hf' with | resolve he' => cases he.symm.trans he'; rfl
  | name => cases hf'; rfl
  | emit ha he =>
    cases hf' with
    | emit ha' he' => obtain rfl := ha.unique ha'; cases he.symm.trans he'; rfl
    | emitPanic ha' he' => obtain rfl := ha.unique ha'; cases he.symm.trans he'
  | emitPanic ha he =>
    cases hf' with
    | emit ha' he' => obtain rfl := ha.unique ha'; cases he.symm.trans he'
    | emitPanic => rfl
  | check => cases hf'; rfl
  | write ha hl he =>
    cases hf' with
    | write ha' hl' he' =>
      obtain rfl := ha.unique ha'
      cases hl.symm.trans hl'
      cases he.symm.trans he'
      rfl

end Fails

-- What is there for a phase stands in the way of its failure.
theorem Loads.not_fails (hd : g.Loads d) : (∀ h, ¬g.Fails .read h) ∧ (∀ h, ¬g.Fails .validate h) := by
  constructor
  · intro _ (.read he)
    cases hd.read.symm.trans he
  · intro _ (.validate hr he)
    obtain rfl := Except.ok.inj (hd.read.symm.trans hr)
    cases hd.valid.symm.trans he

theorem Asks.not_fails (ha : g.Asks request) (hs : s.rank < Phase.rank .emit) : ¬g.Fails s h := by
  have .intro hd hl hn _ := ha
  intro hf
  cases hf with
  | read he => exact hd.not_fails.left _ (.read he)
  | validate hr he => exact hd.not_fails.right _ (.validate hr he)
  | resolve he => cases hl.symm.trans he
  | name he => cases hn.symm.trans he
  | emit | emitPanic | check | write => exact absurd hs (by decide)

theorem Asks.not_fails_emit {ls : List String} (ha : g.Asks request) (hl : g.reply request = .lines ls) :
    ¬g.Fails .emit h := by
  intro hf
  cases hf with
  | emit ha' he | emitPanic ha' he => obtain rfl := ha.unique ha'; cases hl.symm.trans he

theorem Asks.not_fails_check (ha : g.Asks request) (hd : (g.filesAfter request).isDirectory g.outputDirectory) :
    ¬g.Fails .check h := by
  intro (.check ha' he)
  obtain rfl := ha.unique ha'
  exact he hd

section Run

variable {p : Pipeline} {w : World} {input : Path} {e : DocumentError} {vs : List Violation}

theorem runIn_load_of_unread (he : Document.read w.files input = .error e) :
    (p.load input).runIn w = (.error (.error (.document e)), w) := by
  simp [Pipeline.load, Action.runIn_bind, Pipeline.runIn_readDocument, he, Except.mapError]

theorem runIn_load (hr : Document.read w.files input = .ok d) : (p.load input).runIn w =
    (match p.grammar.validateDocument d with
      | .valid => .ok d
      | .invalid vs => .error (.error (.invalidModel input vs)), w) := by
  have hp := Document.path_of_read hr
  simp only [Pipeline.load, Action.runIn_bind, Pipeline.runIn_readDocument, hr, Except.mapError,
    Pipeline.runIn_requireValid]
  cases p.grammar.validateDocument d <;> simp [hp]

-- Until there is a document, the two ways to generate are the same.
theorem run_of_not_loaded (hl : (g.pipeline.load g.input).runIn g.world = (.error h, g.world)) :
    (g.run = (.error h, g.world)) ∧ (∀ l, g.runFor l = (.error h, g.world)) := by
  simp [run, runFor, Pipeline.generate, Pipeline.generateFor, Action.runIn_bind, hl]

theorem run_of_invalid {vs : List Violation} (hr : Document.read g.world.files g.input = .ok d)
    (hv : g.pipeline.grammar.validateDocument d = .invalid vs) :
    g.run = (.error (.error (.invalidModel g.input vs)), g.world) := by
  have hl := runIn_load (p := g.pipeline) hr
  rw [hv] at hl
  exact (run_of_not_loaded hl).left

theorem Loads.runIn_load (hd : g.Loads d) : (g.pipeline.load g.input).runIn g.world = (.ok d, g.world) := by
  rw [Start.runIn_load hd.read, hd.valid]

theorem Loads.runFor_eq (hd : g.Loads d) : g.runFor l =
    match TypeName.ofPath? g.input with
    | some name => ((⟨d, l, name, Output.path g.input g.directory name.text l.extension⟩ : Job).run
        g.pipeline.emitter).runIn g.world
    | none => (.error (.error (.noTypeName g.input)), g.world) := by
  have hp := Document.path_of_read hd.read
  simp only [runFor, Pipeline.generateFor, Action.runIn_bind, hd.runIn_load, Action.runIn_ofExcept, Job.of, hp]
  cases TypeName.ofPath? g.input <;> rfl

theorem Loads.run_eq (hd : g.Loads d) : g.run =
    match Language.resolve g.token with
    | .ok l => g.runFor l
    | .error e => (.error (.error (.unsupportedLanguage e)), g.world) := by
  simp only [run, runFor, Pipeline.generate, Pipeline.generateFor, Action.runIn_bind, hd.runIn_load,
    Action.runIn_ofExcept]
  cases Language.resolve g.token <;> rfl

-- The world once the emitter has answered.
def asked (g : Start) (request : Request) : World where
  files := g.filesAfter request
  calls := g.world.calls ++ [request]

theorem Asks.run_eq (ha : g.Asks request) : g.run =
    match g.reply request with
    | .error e => (.error (.error (.emissionFailed g.input e)), g.asked request)
    | .panic => (.error .panic, g.asked request)
    | .lines ls =>
      if (g.filesAfter request).isDirectory g.outputDirectory then
        match (g.filesAfter request).write (g.output request) (Text.joined ls) with
        | .ok files =>
          (.ok ⟨g.output request, request.typeName, request.language, ls.length⟩, { g.asked request with files })
        | .error e => (.error (.error (.notWritten (g.output request) e)), g.asked request)
      else (.error (.error (.directoryNotFound g.outputDirectory)), g.asked request) := by
  have .intro (d := d) hd hl hn hs := ha
  have hp := Document.path_of_read hd.read
  let job : Job := ⟨d, request.language, request.typeName, g.output request⟩
  have hj : Job.of d request.language g.directory = .ok job := by simp [Job.of, hp, hn, job, output]
  have hq : job.request = .ok request := by
    delta Job.request
    simp only [job, hs]
  have hdir : job.directory = g.outputDirectory := by
    obtain ⟨_, _, _, hd⟩ := Job.output_eq hj
    rw [hd, hp, outputDirectory]
  have hr : g.run = (job.run g.pipeline.emitter).runIn g.world := by
    rw [hd.run_eq, hl]
    simp only [hd.runFor_eq, hn]
    rfl
  have he : (job.emit g.pipeline.emitter).runIn g.world = (job.replied (g.reply request), g.asked request) := by
    rw [Job.runIn_emit_eq, hq]
    rfl
  rw [hr, Job.run, Action.runIn_bind, he]
  cases g.reply request with
  | error e => simp only [Job.replied, job, hp]
  | panic => rfl
  | lines ls =>
    simp only [Job.replied, Action.runIn_bind, Job.runIn_checkDirectory, hdir, asked]
    by_cases hi : (g.filesAfter request).isDirectory g.outputDirectory
    case neg => simp [hi]
    case pos =>
      simp only [hi, Job.runIn_write, Job.contentOf_eq, job]
      rfl

end Run

theorem stops_of_unread {e : DocumentError} (he : Document.read g.world.files g.input = .error e) :
    g.Stops g.run.fst := by
  rw [(run_of_not_loaded (runIn_load_of_unread he)).left]
  exact .failed ⟨.read he, nofun⟩

theorem stops_of_invalid {vs : List Violation} (hr : Document.read g.world.files g.input = .ok d)
    (hv : g.pipeline.grammar.validateDocument d = .invalid vs) : g.Stops g.run.fst := by
  rw [run_of_invalid hr hv]
  refine .failed ⟨.validate hr hv, fun s' h' hs hf => ?_⟩
  cases hf with
  | read he => cases hr.symm.trans he
  | _ => exact absurd hs (by decide)

theorem Loads.stops_of_unresolved {e : UnsupportedLanguage} (hd : g.Loads d)
    (he : Language.resolve g.token = .error e) : g.Stops g.run.fst := by
  simp only [hd.run_eq, he]
  refine .failed ⟨.resolve he, fun s' h' hs hf => ?_⟩
  cases s' with
  | read => exact hd.not_fails.left _ hf
  | validate => exact hd.not_fails.right _ hf
  | _ => exact absurd hs (by decide)

theorem Loads.stops_of_unnamed (hd : g.Loads d) (hl : Language.resolve g.token = .ok l)
    (hn : TypeName.ofPath? g.input = none) : g.Stops g.run.fst := by
  simp only [hd.run_eq, hl, hd.runFor_eq, hn]
  refine .failed ⟨.name hn, fun s' h' hs hf => ?_⟩
  cases s' with
  | read => exact hd.not_fails.left _ hf
  | validate => exact hd.not_fails.right _ hf
  | resolve => cases hf with | resolve he => cases hl.symm.trans he
  | _ => exact absurd hs (by decide)

theorem Asks.stops (ha : g.Asks request) : g.Stops g.run.fst := by
  rw [ha.run_eq]
  cases hr : g.reply request with
  | error e => exact .failed ⟨.emit ha hr, fun _ _ hs => ha.not_fails hs⟩
  | panic => exact .failed ⟨.emitPanic ha hr, fun _ _ hs => ha.not_fails hs⟩
  | lines ls =>
    by_cases hd : (g.filesAfter request).isDirectory g.outputDirectory
    case neg =>
      dsimp only
      rw [if_neg hd]
      refine .failed ⟨.check ha hd, fun s' h' hs hf => ?_⟩
      cases s' with
      | emit => exact ha.not_fails_emit hr hf
      | check | write => exact absurd hs (by decide)
      | _ => exact ha.not_fails (by decide) hf
    case pos =>
      dsimp only
      rw [if_pos hd]
      cases hw : (g.filesAfter request).write (g.output request) (Text.joined ls) with
      | error e =>
        refine .failed ⟨.write ha hr hw, fun s' h' hs hf => ?_⟩
        cases s' with
        | emit => exact ha.not_fails_emit hr hf
        | check => exact ha.not_fails_check hd hf
        | write => exact absurd hs (by decide)
        | _ => exact ha.not_fails (by decide) hf
      | ok files =>
        refine .done fun s' h' hf => ?_
        cases s' with
        | emit => exact ha.not_fails_emit hr hf
        | check => exact ha.not_fails_check hd hf
        | write =>
          have .write ha' hl he := hf
          obtain rfl := ha.unique ha'
          cases hr.symm.trans hl
          cases hw.symm.trans he
        | _ => exact ha.not_fails (by decide) hf

-- Whichever phases fail, it is the first of them that generation stops at.
theorem stops (g : Start) : g.Stops g.run.fst := by
  cases hr : Document.read g.world.files g.input with
  | error e => exact stops_of_unread hr
  | ok d =>
    cases hv : g.pipeline.grammar.validateDocument d with
    | invalid vs => exact stops_of_invalid hr hv
    | valid =>
      have hd : g.Loads d := ⟨hr, hv⟩
      cases hl : Language.resolve g.token with
      | error e => exact hd.stops_of_unresolved hl
      | ok l =>
        cases hn : TypeName.ofPath? g.input with
        | none => exact hd.stops_of_unnamed hl hn
        | some name =>
          have ⟨_, ha⟩ := asks_iff.mpr ⟨⟨d, hd⟩, ⟨l, hl⟩, ⟨name, hn⟩⟩
          exact ha.stops

theorem FailsFirst.unique (hf : g.FailsFirst s h) (hf' : g.FailsFirst s' h') : h = h' := by
  have hs : s.rank = s'.rank := by
    refine Nat.le_antisymm (Nat.le_of_not_lt fun hl => ?_) (Nat.le_of_not_lt fun hl => ?_)
    · exact hf.before _ _ hl hf'.fails
    · exact hf'.before _ _ hl hf.fails
  obtain rfl : s = s' := by
    cases s <;> cases s' <;> first | rfl | cases hs
  exact hf.fails.unique hf'.fails

theorem run_error_iff : (g.run.fst = .error h) ↔ (∃ s, g.FailsFirst s h) := by
  have hs := g.stops
  constructor
  · intro he
    rw [he] at hs
    have .failed first := hs
    exact ⟨_, first⟩
  · intro ⟨s, first⟩
    cases hr : g.run.fst <;> rw [hr] at hs
    case error =>
      have .failed first' := hs
      rw [first.unique first']
    case ok =>
      have .done passes := hs
      exact absurd first.fails (passes _ _)

namespace Agree

theorem symm (ha : Agree s g g') : Agree s g' g where
  input := ha.input.symm
  read := by rw [ha.input, ha.read]
  grammar hs := (ha.grammar hs).symm
  token hs := (ha.token hs).symm
  reply hs := (ha.reply hs).symm
  files hs := (ha.files hs).symm
  directory hs := (ha.directory hs).symm

theorem asks (ha : Agree s g g') (hs : Phase.rank .emit ≤ s.rank) : (g.Asks request) → g'.Asks request
  | .intro hd hl hn ht => by
    have hr : Phase.rank .resolve ≤ s.rank := Nat.le_trans (by decide) hs
    have hv : Phase.rank .validate ≤ s.rank := Nat.le_trans (by decide) hs
    refine .intro ⟨?_, ?_⟩ ?_ ?_ ht
    · rw [ha.input, ha.read, hd.read]
    · rw [ha.grammar hv, hd.valid]
    · rw [ha.token hr, hl]
    · rw [ha.input, hn]

theorem fails (ha : Agree s g g') (hs : s'.rank ≤ s.rank) (hf : g.Fails s' h) : g'.Fails s' h := by
  have hi := ha.input
  cases hf with
  | read he => exact .read (by rw [hi, ha.read, he])
  | validate hr hv => exact hi ▸ .validate (by rw [hi, ha.read, hr]) (by rw [ha.grammar hs, hv])
  | resolve he => exact .resolve (by rw [ha.token hs, he])
  | name hn => exact hi ▸ .name (by rw [hi, hn])
  | emit hq he => exact hi ▸ .emit (ha.asks hs hq) (by rw [ha.reply hs, he])
  | emitPanic hq he => exact .emitPanic (ha.asks hs hq) (by rw [ha.reply hs, he])
  | check hq hd =>
    have he : Phase.rank .emit ≤ s.rank := Nat.le_trans (by decide) hs
    have ho : g'.outputDirectory = g.outputDirectory := by rw [outputDirectory, hi, ha.directory hs, outputDirectory]
    exact ho ▸ .check (ha.asks he hq) (by rw [ha.files hs, ho]; exact hd)
  | @write request _ _ hq hl hw =>
    have he : Phase.rank .emit ≤ s.rank := Nat.le_trans (by decide) hs
    have hc : Phase.rank .check ≤ s.rank := Nat.le_trans (by decide) hs
    have ho : g'.output request = g.output request := by rw [output, hi, ha.directory hc, output]
    exact ho ▸ .write (ha.asks he hq) (by rw [ha.reply he, hl]) (by rw [ha.files hc, ho, hw])

-- What is different for later phases only does not change the failure.
theorem failsFirst (ha : Agree s g g') (hf : g.FailsFirst s h) : g'.FailsFirst s h where
  fails := ha.fails (Nat.le_refl _) hf.fails
  before s' h' hs hf' := hf.before s' h' hs (ha.symm.fails (Nat.le_of_lt hs) hf')

end Agree

theorem run_ok_iff : (∃ file, g.run.fst = .ok file) ↔ (∀ s h, ¬g.Fails s h) := by
  have hs := g.stops
  constructor
  · intro ⟨_, he⟩
    rw [he] at hs
    have .done passes := hs
    exact passes
  · intro passes
    cases hr : g.run.fst <;> rw [hr] at hs
    case error =>
      have .failed first := hs
      exact absurd first.fails (passes _ _)
    case ok file => exact ⟨file, rfl⟩

theorem run_of_no_document (hn : ¬∃ d, g.Loads d) :
    ∃ h, (g.run = (.error h, g.world)) ∧ (∀ l, g.runFor l = (.error h, g.world)) := by
  cases hr : Document.read g.world.files g.input with
  | error e => exact ⟨_, run_of_not_loaded (runIn_load_of_unread hr)⟩
  | ok d =>
    have hl := runIn_load (p := g.pipeline) hr
    cases hv : g.pipeline.grammar.validateDocument d with
    | valid => exact absurd ⟨d, hr, hv⟩ hn
    | invalid vs =>
      rw [hv] at hl
      exact ⟨_, run_of_not_loaded hl⟩

theorem run_eq_runFor (hl : Language.resolve g.token = .ok l) : g.run = g.runFor l := by
  by_cases hd : ∃ d, g.Loads d
  case pos =>
    have ⟨d, hd⟩ := hd
    rw [hd.run_eq, hl]
  case neg =>
    have ⟨h, hr, hf⟩ := run_of_no_document hd
    rw [hr, hf]

theorem token_of_unresolved {token : String} {e : UnsupportedLanguage} (he : Language.resolve token = .error e) :
    e = ⟨token⟩ := by
  rw [Language.resolve] at he
  split at he <;> cases he
  rfl

theorem calls_of_asks (ha : g.Asks request) : g.run.snd.calls = g.world.calls ++ [request] := by
  rw [ha.run_eq]
  cases g.reply request with
  | error e => rfl
  | panic => rfl
  | lines ls =>
    dsimp only
    split
    case isTrue => cases (g.filesAfter request).write (g.output request) (Text.joined ls) <;> rfl
    case isFalse => rfl

-- The files are those that the emitter leaves, and the output on top only if all has gone well.
theorem files_of_asks (ha : g.Asks request) :
    (∀ h, (g.run.fst = .error h) → g.run.snd.files = g.filesAfter request) ∧
    (∀ file, (g.run.fst = .ok file) → ∃ ls, (g.reply request = .lines ls) ∧
      ((g.filesAfter request).write (g.output request) (Text.joined ls) = .ok g.run.snd.files)) := by
  rw [ha.run_eq]
  cases g.reply request with
  | error e => exact ⟨fun _ _ => rfl, nofun⟩
  | panic => exact ⟨fun _ _ => rfl, nofun⟩
  | lines ls =>
    dsimp only
    split
    case isFalse => exact ⟨fun _ _ => rfl, nofun⟩
    case isTrue =>
      cases hw : (g.filesAfter request).write (g.output request) (Text.joined ls) with
      | error e => exact ⟨fun _ _ => rfl, nofun⟩
      | ok files => exact ⟨nofun, fun _ _ => ⟨ls, rfl, hw⟩⟩

theorem world_of_not_asks (hn : ¬∃ request, g.Asks request) : g.run.snd = g.world := by
  by_cases hd : ∃ d, g.Loads d
  case neg =>
    have ⟨h, hr, _⟩ := run_of_no_document hd
    rw [hr]
  case pos =>
    have ⟨d, hd⟩ := hd
    rw [hd.run_eq]
    cases hl : Language.resolve g.token with
    | error e => rfl
    | ok l =>
      cases hp : TypeName.ofPath? g.input with
      | none => simp only [hd.runFor_eq, hp]
      | some name => exact absurd (asks_iff.mpr ⟨⟨d, hd⟩, ⟨l, hl⟩, ⟨name, hp⟩⟩) hn

end Start

-- Whichever of its phases fail, generation stops at the first of them, and it asks the emitter only if all
-- before the emitter pass.
theorem Pipeline.generate_ordered (g : Start) : g.Ordered where
  failure h := Start.run_error_iff
  success := Start.run_ok_iff
  later s h g' first agree := Start.run_error_iff.mpr ⟨s, agree.failsFirst first⟩
  invalid d vs hr hv directory token := Start.run_of_invalid (g := { g with directory, token }) hr hv
  asks := Start.asks_iff
  asked request ha := Start.calls_of_asks ha
  unasked := Start.world_of_not_asks
  unwritten request h ha := (Start.files_of_asks ha).left h
  written request file ha := (Start.files_of_asks ha).right file
  resolved l hl := Start.run_eq_runFor hl
  unresolved e he := by
    refine ⟨fun ⟨d, hd⟩ => ?_, Start.run_of_no_document⟩
    obtain rfl := Start.token_of_unresolved he
    rw [hd.run_eq, he]

end ModelForge
