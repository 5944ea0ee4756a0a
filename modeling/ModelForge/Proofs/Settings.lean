import ModelForge.Settings

namespace ModelForge

-- What a variable of the environment sets: an empty one sets nothing.
inductive Environment.Sets (env : Environment) (name : String) : Option Path → Prop
  | missing (missing : env.get? name = none) : Sets env name none
  | empty (empty : env.get? name = some "") : Sets env name none
  | path {value : String} (set : env.get? name = some value) (nonempty : value ≠ "") : Sets env name (some ⟨value⟩)

theorem Environment.sets_iff {env : Environment} {name : String} {value : Option Path} :
    env.Sets name value ↔ env.path? name = value := by
  constructor
  case mp =>
    intro h
    cases h with
    | missing h => simp [path?, h]
    | empty h => simp [path?, h]
    | path h hv => simp [path?, h, hv]
  case mpr =>
    rintro rfl
    cases h : env.get? name with
    | none => simpa [path?, h] using .missing h
    | some v =>
      by_cases hv : v = ""
      case pos => simpa [path?, h, hv] using .empty (hv ▸ h)
      case neg => simpa [path?, h, hv] using .path h hv

namespace Settings

variable {α : Type} {layers layers' : List (Option α)} {value value' : Option α}

-- What the layers of a setting come to, the highest one first.
inductive FirstSet {α : Type} : List (Option α) → Option α → Prop
  | unset : FirstSet [] none
  | set {a : α} {layers : List (Option α)} : FirstSet (some a :: layers) (some a)
  | skip {layers : List (Option α)} {value : Option α} (first : FirstSet layers value) : FirstSet (none :: layers) value

-- Layers that do not differ down to the first one that is set, whatever is below it.
inductive Agree {α : Type} : List (Option α) → List (Option α) → Prop
  | unset : Agree [] []
  | set {a : α} {layers layers' : List (Option α)} : Agree (some a :: layers) (some a :: layers')
  | skip {layers layers' : List (Option α)} (agree : Agree layers layers') : Agree (none :: layers) (none :: layers')

theorem firstSet_iff : FirstSet layers value ↔ layers.foldr Option.or none = value := by
  induction layers with
  | nil => exact ⟨fun | .unset => rfl, fun h => h ▸ .unset⟩
  | cons layer layers hi =>
    cases layer with
    | none => exact ⟨fun | .skip h => hi.mp h, fun h => .skip (hi.mpr h)⟩
    | some a => exact ⟨fun | .set => rfl, fun h => h ▸ .set⟩

theorem FirstSet.unique (h : FirstSet layers value) (h' : FirstSet layers value') : value = value' :=
  (firstSet_iff.mp h).symm.trans (firstSet_iff.mp h')

theorem Agree.firstSet (h : Agree layers layers') : (FirstSet layers value) → FirstSet layers' value := by
  induction h with
  | unset => exact id
  | set => exact fun | .set => .set
  | skip _ hi => exact fun | .skip first => .skip (hi first)

-- The layers of every setting. The arguments have only one.
structure Layers where
  language  : List (Option String)
  output    : List (Option Path)
  grammar   : List (Option Path)
  program   : List (Option Path)
  arguments : List String

-- Language and output are not read from the environment, and the program alone has a default of its own.
inductive Layered (flags : Flags) (env : Environment) (file : ConfigFile) : Layers → Prop
  | intro {g p : Option Path} (grammar : env.Sets "MTYPES_GRAMMAR" g) (program : env.Sets "MTYPES_QUICKTYPE" p) :
    Layered flags env file {
      language := [flags.language, file.language]
      output := [flags.output, file.output]
      grammar := [flags.grammar, g, file.grammar]
      program := [flags.program, p, file.program, some ⟨"quicktype"⟩]
      arguments := file.arguments }

structure Layers.Give (layers : Layers) (s : Settings) : Prop where
  language  : FirstSet layers.language s.language
  output    : FirstSet layers.output s.output
  grammar   : FirstSet layers.grammar s.grammar
  program   : FirstSet layers.program (some s.program)
  arguments : s.arguments = layers.arguments

structure Layers.Agree (layers layers' : Layers) : Prop where
  language  : Settings.Agree layers.language layers'.language
  output    : Settings.Agree layers.output layers'.output
  grammar   : Settings.Agree layers.grammar layers'.grammar
  program   : Settings.Agree layers.program layers'.program
  arguments : layers.arguments = layers'.arguments

variable {flags : Flags} {env : Environment} {file : ConfigFile} {s s' : Settings}

theorem Layers.Give.unique {layers : Layers} (g : layers.Give s) (g' : layers.Give s') : s = s' := by
  have hl := g.language.unique g'.language
  have ho := g.output.unique g'.output
  have hg := g.grammar.unique g'.grammar
  have hp := Option.some.inj (g.program.unique g'.program)
  have ha := g.arguments.trans g'.arguments.symm
  cases s
  cases s'
  subst hl ho hg hp ha
  rfl

theorem Layers.Agree.give {layers layers' : Layers} (h : layers.Agree layers') (g : layers.Give s) :
    layers'.Give s where
  language := h.language.firstSet g.language
  output := h.output.firstSet g.output
  grammar := h.grammar.firstSet g.grammar
  program := h.program.firstSet g.program
  arguments := g.arguments.trans h.arguments

theorem Layered.of_resolve (flags : Flags) (env : Environment) (file : ConfigFile) : ∃ layers,
    (Layered flags env file layers) ∧ (layers.Give (resolve flags env file)) := by
  refine ⟨_, .intro (Environment.sets_iff.mpr rfl) (Environment.sets_iff.mpr rfl), ?_⟩
  -- What is set on the way comes through, whatever the default.
  have getD (a b c : Option Path) (d : Path) :
      [a, b, c, some d].foldr Option.or none = some ((a <|> b <|> c).getD d) := by
    cases a <;> cases b <;> cases c <;> rfl
  exact {
    language := firstSet_iff.mpr (by simp [resolve])
    output := firstSet_iff.mpr (by simp [resolve])
    grammar := firstSet_iff.mpr (by simp [resolve, Environment.grammar])
    program := firstSet_iff.mpr (getD ..)
    arguments := rfl }

theorem Layered.unique {layers layers' : Layers} (h : Layered flags env file layers)
    (h' : Layered flags env file layers') : layers = layers' := by
  obtain ⟨hg, hp⟩ := h
  obtain ⟨hg', hp'⟩ := h'
  rw [Environment.sets_iff] at hg hp hg' hp'
  rw [← hg, ← hp, hg', hp']

-- Resolution gives the settings that the layers give, and only those.
theorem Layered.give_iff {layers : Layers} (h : Layered flags env file layers) :
    layers.Give s ↔ s = resolve flags env file := by
  obtain ⟨layers', h', g⟩ := Layered.of_resolve flags env file
  obtain rfl := h.unique h'
  exact ⟨fun g' => g'.unique g, fun he => he ▸ g⟩

end Settings

end ModelForge
