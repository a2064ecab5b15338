import HookPlan.Yaml.Cursor

/-!
# Tokens

The words of YAML: indicators, scalars with their content already decoded, and the
starts and ends of block collections, which stand for changes of indentation.
-/

namespace HookPlan.Yaml

/-- How a scalar was written. -/
inductive ScalarStyle where
  | plain
  | singleQuoted
  | doubleQuoted
  | literal
  | folded
  deriving Repr, DecidableEq

/-- The kinds of token. -/
inductive Lexeme where
  | streamEnd
  | version (major minor : Nat)
  | tagHandle (handle expansion : String)
  | documentStart
  | documentEnd
  | blockSequenceStart
  | blockMappingStart
  | blockEnd
  | flowSequenceStart
  | flowSequenceEnd
  | flowMappingStart
  | flowMappingEnd
  | blockEntry
  | flowEntry
  | key
  | value
  | reference (name : String)
  | anchor (name : String)
  | tag (handle suffix : String)
  | scalar (content : String) (style : ScalarStyle)
  deriving Repr, DecidableEq

/-- A token and the places where it starts and ends. -/
structure Token where
  lexeme : Lexeme
  start : Mark
  stop : Mark
  deriving Repr, DecidableEq

end HookPlan.Yaml
