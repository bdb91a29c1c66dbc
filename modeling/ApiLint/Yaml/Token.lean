import ApiLint.Yaml.Spot

/-!
# YAML tokens

The smallest pieces that the structure of a YAML document is told from. Indentation
is made explicit: a block that starts or ends by its indentation has a token of its
own.
-/

namespace ApiLint.Yaml

/-- How a scalar is written. -/
inductive ScalarStyle where
  | plain
  | singleQuoted
  | doubleQuoted
  | literal
  | folded
  deriving DecidableEq, Repr, Inhabited

/-- What a token is. -/
inductive TokenKind where
  | streamStart
  | streamEnd
  | versionDirective (major minor : Nat)
  | tagDirective (handle uri : Text)
  | documentStart
  | documentEnd
  | blockSequenceStart
  | blockMappingStart
  | blockEnd
  | flowSequenceStart
  | flowSequenceEnd
  | flowMappingStart
  | flowMappingEnd
  | blockEntry
  | flowEntry
  | key
  | value
  | alias (name : Text)
  | anchor (name : Text)
  | tag (handle suffix : Text)
  | scalar (text : Text) (style : ScalarStyle)
  deriving DecidableEq, Repr, Inhabited

/-- A token and where it starts. -/
structure Lexeme where
  kind : TokenKind
  start : Position
  deriving DecidableEq, Repr, Inhabited

end ApiLint.Yaml
