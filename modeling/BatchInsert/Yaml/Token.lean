import BatchInsert.Yaml.Fault

/-!
# Tokens of a YAML text
-/

namespace BatchInsert.Yaml

inductive Style
  | plain
  | quoted
  | literal
  | folded
deriving DecidableEq, Repr

namespace Token

inductive Kind
  | version (major minor : Nat)
  | tagDirective (handle expansion : String)
  | documentStart
  | documentEnd
  | streamEnd
  | blockSequenceStart
  | blockMappingStart
  | blockEnd
  | flowSequenceStart
  | flowSequenceEnd
  | flowMappingStart
  | flowMappingEnd
  | blockEntry
  | flowEntry
  | key
  | value
  | reference (name : String)
  | anchor (name : String)
  | tag (handle suffix : String)
  | scalar (text : String) (style : Style)
deriving DecidableEq, Repr

end Token

/-- A token and the mark of its first character. -/
structure Token where
  kind : Token.Kind
  mark : Mark
deriving DecidableEq, Repr

end BatchInsert.Yaml
