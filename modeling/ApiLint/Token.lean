import ApiLint.Text.Lines

/-!
# Tokens and where they come from

A line is cut into tokens, each with the scopes that classify it. Only two
scopes matter here: those that mark the key of a mapping. Whoever can answer
with the tokens of a line is a `TokenSource`: a tokenized document, a buffer
that tokenizes on demand, or any list of lines.
-/

namespace ApiLint

/-- The scopes that mark the name of a mapping key. -/
inductive KeyScope where
  | yaml
  | json
  deriving DecidableEq, Repr

/-- How the scope is spelled among the scopes of a token. -/
def KeyScope.name : KeyScope → String
  | .yaml => "entity.name.tag.yaml"
  | .json => "meta.structure.dictionary.json"

/-- A piece of one line with the scopes that classify it, outermost first. -/
structure Token where
  scopes : List String
  value : Text
  deriving DecidableEq, Repr, Inhabited

def Token.isKey (token : Token) : Bool :=
  token.scopes.any fun scope => scope == KeyScope.yaml.name || scope == KeyScope.json.name

/-- The number of characters of the token. -/
def Token.width (token : Token) : Nat := token.value.length

abbrev TokenLine := List Token

def TokenLine.text (line : TokenLine) : Text := line.flatMap Token.value

/-- Something that knows the tokens of lines. The line count is what the source
reports and need not be where its lines end: `line?` alone says which exist. -/
structure TokenSource where
  lineCount : Nat
  line? : Nat → Option TokenLine

def TokenSource.ofLines (lines : List TokenLine) : TokenSource :=
  ⟨lines.length, fun n => lines[n]?⟩

end ApiLint
