import ModelForge.Yaml.Cursor
/-!
The tokens of YAML. Besides what is written, tokens mark where block collections begin and end,
which indentation decides, and which scalars are keys, which only a later colon decides.
-/

namespace ModelForge.Yaml

inductive ScalarStyle
  | plain
  | singleQuoted
  | doubleQuoted
  | literal
  | folded
  deriving DecidableEq, Repr, Inhabited

inductive TokenKind
  | streamStart
  | streamEnd
  | versionDirective (major minor : Nat)
  | tagDirective (handle start : String)
  | documentStart
  | documentEnd
  | blockSequenceStart
  | blockMappingStart
  | blockEnd
  | flowSequenceStart
  | flowSequenceEnd
  | flowMappingStart
  | flowMappingEnd
  | blockEntry
  | flowEntry
  | key
  | value
  | alias (name : String)
  | anchor (name : String)
  | tag (handle suffix : String)
  | scalar (text : String) (style : ScalarStyle)
  deriving DecidableEq, Repr, Inhabited

structure Token where
  kind  : TokenKind
  start : Mark
  stop  : Mark
  deriving DecidableEq, Repr, Inhabited

end ModelForge.Yaml
