import ModelForge.Settings.ConfigFile
/-!
Effective settings, layered: a flag goes before the environment, that before the configuration
file, and that before what is built in. An empty variable of the environment is not set.
-/

namespace ModelForge

/-- What the command line sets. -/
structure Flags where
  language : Option String := none
  output   : Option Path := none
  grammar  : Option Path := none
  program  : Option Path := none
  deriving DecidableEq, Repr

/-- The variables of an environment. -/
abbrev Environment := List (String × String)

namespace Environment

def get? (env : Environment) (name : String) : Option String := Keyed.find? name env

/-- A variable that is set to a text other than the empty one. -/
def path? (env : Environment) (name : String) : Option Path :=
  (env.get? name).bind fun v => if v.isEmpty then none else some ⟨v⟩

def program : String := "MTYPES_QUICKTYPE"

def grammar : String := "MTYPES_GRAMMAR"

end Environment

structure Settings where
  language  : Option String
  output    : Option Path
  /-- The bundled grammar where none is set. -/
  grammar   : Option Path
  program   : Path
  arguments : List String
  deriving DecidableEq, Repr

namespace Settings

def defaultProgram : Path := ⟨"quicktype"⟩

def resolve (flags : Flags) (env : Environment) (file : ConfigFile) : Settings where
  language := flags.language <|> file.language
  output := flags.output <|> file.output
  grammar := flags.grammar <|> env.path? Environment.grammar <|> file.grammar
  program := (flags.program <|> env.path? Environment.program <|> file.program).getD defaultProgram
  arguments := file.arguments

end Settings

end ModelForge
