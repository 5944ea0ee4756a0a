import ModelForge.CommandLine.Tool
import ModelForge.Proofs.Run
import ModelForge.Proofs.Settings

namespace ModelForge.CommandLine

-- The configuration of a run: that of the file that is named, if there is one.
inductive Arguments.Configured (a : Arguments) (fs : FileSystem) : ConfigFile → Prop
  | unnamed (unnamed : a.config = none) : Configured a fs {}
  | loaded {path : Path} {file : ConfigFile} (named : a.config = some path)
    (loaded : ConfigFile.load fs path = .ok file) : Configured a fs file

-- The settings of a run, with each of them set by the highest layer that sets it.
inductive Arguments.Set (a : Arguments) (env : Environment) (fs : FileSystem) (s : Settings) : Prop
  | intro {file : ConfigFile} {layers : Settings.Layers} (configured : a.Configured fs file)
    (layered : Settings.Layered a.flags env file layers) (give : layers.Give s)

-- The pipeline of a run: the emitter by its program and arguments, and a grammar that could be loaded.
inductive Builds (s : Settings) (fs : FileSystem) : Pipeline → Prop
  | bundled (unnamed : s.grammar = none) : Builds s fs ⟨.bundled, (Program.mk s.program s.arguments).emitter⟩
  | loaded {path : Path} {g : Grammar} (named : s.grammar = some path) (loaded : Grammar.load fs path = .ok g) :
    Builds s fs ⟨g, (Program.mk s.program s.arguments).emitter⟩

-- What the handler of the mode comes to.
inductive Handles (a : Arguments) (s : Settings) (p : Pipeline) (fs : FileSystem) :
    Except BatchError Printed × World → Prop
  | validate {input : Path} (mode : a.mode = .validate input) :
    Handles a s p fs (Run.validate p ⟨fs, []⟩ input a.reportFormat)
  | generate {input : Path} (mode : a.mode = .generate input) :
    Handles a s p fs (Run.generate p ⟨fs, []⟩ input s.language s.output a.reportFormat)

-- What a command line that asks for a run comes to. What the configuration and the grammar come to is looked
-- at in this order, before anything is done.
inductive Executes (a : Arguments) (env : Environment) (fs : FileSystem) : Execution → Prop
  | unconfigured {path : Path} {cause : ConfigError} (named : a.config = some path)
    (unloaded : ConfigFile.load fs path = .error cause) :
    Executes a env fs ⟨2, "", some ("error: " ++ cause.message), fs, []⟩
  | grammarless {s : Settings} {path : Path} {cause : GrammarError} (settings : a.Set env fs s)
    (named : s.grammar = some path) (unloaded : Grammar.load fs path = .error cause) :
    Executes a env fs
      ⟨2, "", some ("error: " ++ ("failed to load grammar " ++ path.text ++ ": " ++ cause.message)), fs, []⟩
  | printed {s : Settings} {p : Pipeline} {printed : Printed} {w : World} (settings : a.Set env fs s)
    (pipeline : Builds s fs p) (handled : Handles a s p fs (.ok printed, w)) :
    Executes a env fs ⟨printed.code, printed.output, none, w.files, w.calls⟩
  | failed {s : Settings} {p : Pipeline} {cause : BatchError} {w : World} (settings : a.Set env fs s)
    (pipeline : Builds s fs p) (handled : Handles a s p fs (.error cause, w)) :
    Executes a env fs ⟨2, "", some ("error: " ++ (ToolError.batch cause).message), w.files, w.calls⟩

variable {a a' : Arguments} {env env' : Environment} {fs : FileSystem} {s : Settings}
  {p : Pipeline} {result : Except BatchError Printed × World} {e : Execution}

namespace Arguments

theorem set_iff : a.Set env fs s ↔ a.settings env fs = .ok s := by
  constructor
  case mp =>
    intro ⟨configured, layered, give⟩
    obtain rfl := layered.give_iff.mp give
    cases configured with
    | unnamed hc => simp only [settings, hc]
    | loaded hc hl => simp only [settings, hc, hl, Except.map]
  case mpr =>
    intro h
    simp only [settings] at h
    split at h
    case h_1 hc =>
      have ⟨_, layered, give⟩ := Settings.Layered.of_resolve a.flags env {}
      exact Except.ok.inj h ▸ .intro (.unnamed hc) layered give
    case h_2 path hc =>
      cases hl : ConfigFile.load fs path with
      | error cause => simp [hl, Except.map] at h
      | ok file =>
        have ⟨_, layered, give⟩ := Settings.Layered.of_resolve a.flags env file
        simp only [hl, Except.map] at h
        exact Except.ok.inj h ▸ .intro (.loaded hc hl) layered give

theorem settings_error_iff {cause : ConfigError} : a.settings env fs = .error cause ↔
    ∃ path, (a.config = some path) ∧ (ConfigFile.load fs path = .error cause) := by
  cases hc : a.config with
  | none => simp [settings, hc]
  | some path => cases hl : ConfigFile.load fs path <;> simp [settings, hc, hl, Except.map]

end Arguments

theorem builds_iff : Builds s fs p ↔ pipeline s fs = .ok p := by
  constructor
  case mp =>
    intro h
    cases h with
    | bundled hg => simp only [pipeline, hg]
    | loaded hg hl => simp only [pipeline, hg, hl]
  case mpr =>
    intro h
    simp only [pipeline] at h
    split at h
    case h_1 hg => exact Except.ok.inj h ▸ .bundled hg
    case h_2 hg =>
      split at h <;> cases h
      case h_1 hl => exact .loaded hg hl

theorem pipeline_error_iff {cause : ToolError} : pipeline s fs = .error cause ↔
    ∃ path e, (s.grammar = some path) ∧ (Grammar.load fs path = .error e) ∧ (cause = .grammar path e) := by
  cases hg : s.grammar with
  | none => simp [pipeline, hg]
  | some path => cases hl : Grammar.load fs path <;> simp [pipeline, hg, hl, eq_comm]

theorem handles_iff : Handles a s p fs result ↔ runMode a.mode s p fs a.reportFormat = result := by
  constructor
  case mp => rintro (hm | hm) <;> rw [hm] <;> rfl
  case mpr =>
    rintro rfl
    cases hm : a.mode with
    | validate input => exact .validate hm
    | generate input => exact .generate hm

theorem execute_eq_iff : execute a env fs = e ↔ Executes a env fs e := by
  constructor
  case mp =>
    rintro rfl
    rw [execute]
    cases hs : a.settings env fs with
    | error cause =>
      have ⟨_, named, unloaded⟩ := Arguments.settings_error_iff.mp hs
      exact .unconfigured named unloaded
    | ok s =>
      have settings := Arguments.set_iff.mpr hs
      cases hp : pipeline s fs with
      | error cause =>
        obtain ⟨_, _, named, unloaded, rfl⟩ := pipeline_error_iff.mp hp
        simp only [hp]
        exact .grammarless settings named unloaded
      | ok p =>
        have pipeline := builds_iff.mpr hp
        rcases hr : runMode a.mode s p fs a.reportFormat with ⟨cause | printed, w⟩
        all_goals simp only [hp, hr]
        case error => exact .failed settings pipeline (handles_iff.mpr hr)
        case ok => exact .printed settings pipeline (handles_iff.mpr hr)
  case mpr =>
    intro h
    cases h with
    | unconfigured named unloaded =>
      rw [execute, Arguments.settings_error_iff.mpr ⟨_, named, unloaded⟩]
      rfl
    | grammarless settings named unloaded =>
      rw [execute, Arguments.set_iff.mp settings]
      simp only [pipeline_error_iff.mpr ⟨_, _, named, unloaded, rfl⟩]
      rfl
    | printed settings pipeline handled =>
      rw [execute, Arguments.set_iff.mp settings]
      simp only [builds_iff.mp pipeline, handles_iff.mp handled]
    | failed settings pipeline handled =>
      rw [execute, Arguments.set_iff.mp settings]
      simp only [builds_iff.mp pipeline, handles_iff.mp handled]
      rfl

-- Two command lines in their environments that ask for the same and whose settings do not differ, whatever
-- the layers below the first one that sets a setting hold.
inductive Alike (fs : FileSystem) (a : Arguments) (env : Environment) (a' : Arguments) (env' : Environment) : Prop
  | intro {file file' : ConfigFile} {layers layers' : Settings.Layers} (mode : a'.mode = a.mode)
    (reportFormat : a'.reportFormat = a.reportFormat) (configured : a.Configured fs file)
    (configured' : a'.Configured fs file') (layered : Settings.Layered a.flags env file layers)
    (layered' : Settings.Layered a'.flags env' file' layers') (agree : layers.Agree layers')

theorem Alike.execute_eq : (Alike fs a env a' env') → execute a' env' fs = execute a env fs
  | .intro mode reportFormat configured configured' layered layered' agree => by
    have give := layered.give_iff.mpr rfl
    have hs := Arguments.set_iff.mp (.intro configured layered give)
    have hs' := Arguments.set_iff.mp (.intro configured' layered' (agree.give give))
    simp only [execute, hs, hs', mode, reportFormat]

section EmptyDirectory

open Run (emptyDirectory resolve_emptyDirectory)

-- The configuration and the grammar are both a directory, which cannot be read.
def unreadableArguments : Arguments where
  mode := .validate ⟨"models"⟩
  config := some ⟨"models"⟩
  grammar := some ⟨"models"⟩

theorem load_emptyDirectory :
    ConfigFile.load emptyDirectory ⟨"models"⟩ = .error (.unreadable ⟨"models"⟩ .isDirectory) := by
  simp only [ConfigFile.load, FileSystem.readText, FileSystem.read, resolve_emptyDirectory]
  rfl

-- A variable that the flag goes before may be anything.
def flaggedArguments : Arguments where
  mode := .validate ⟨"models"⟩
  grammar := some ⟨"models"⟩

theorem alike_emptyDirectory :
    Alike emptyDirectory flaggedArguments [] flaggedArguments [("MTYPES_GRAMMAR", "g.json")] :=
  .intro rfl rfl (.unnamed rfl) (.unnamed rfl) (.intro (.missing rfl) (.missing rfl))
    (.intro (.path rfl (by decide)) (.missing rfl))
    ⟨.skip (.skip .unset), .skip (.skip .unset), .set, .skip (.skip (.skip .set)), rfl⟩

end EmptyDirectory

end ModelForge.CommandLine
