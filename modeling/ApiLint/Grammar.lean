import ApiLint.FileName
import ApiLint.Text.Blank
import ApiLint.Token

/-!
# The two grammars of a document

A document is YAML or JSON. The file extension decides, and where it says
neither, the first character that is not white space: an opening brace or
bracket makes it JSON. `Grammar` also holds the scopes that tokens carry.
-/

namespace ApiLint

/-- The notation a document is written in. -/
inductive Grammar where
  | yaml
  | json
  deriving DecidableEq, Repr, Inhabited

namespace Grammar

/-- The grammar a file extension asks for, ASCII letters in either case. -/
def ofExtension? (extension : Text) : Option Grammar :=
  let lower := extension.map Char.toLower
  if lower = "json".toList then some .json
  else if lower = "yaml".toList ∨ lower = "yml".toList then some .yaml
  else none

def ofText (text : Text) : Grammar :=
  match text.trimStart with
  | '{' :: _ => .json
  | '[' :: _ => .json
  | _ => .yaml

/-- By the extension of the path, if there is one that decides, else by the text. -/
def detect (path? : Option Text) (text : Text) : Grammar :=
  match path?.bind FileName.extension? with
  | some extension => (ofExtension? extension).getD (ofText text)
  | none => ofText text

/-- The scope that every token of the document carries. -/
def baseScope : Grammar → String
  | .yaml => "source.yaml"
  | .json => "source.json"

def keyToken (grammar : Grammar) (name : Text) (quoted : Bool) : Token :=
  match grammar, quoted with
  | .yaml, false => ⟨["source.yaml", KeyScope.yaml.name], name⟩
  | .yaml, true => ⟨["source.yaml", "string.quoted.yaml", KeyScope.yaml.name], name⟩
  | .json, _ =>
    ⟨["source.json", KeyScope.json.name, "string.quoted.double.json",
      "support.type.property-name.json"], name⟩

/-- A quote that opens or closes a key. -/
def quoteToken : Grammar → Text → Token
  | .yaml, value => ⟨["source.yaml", "punctuation.definition.string.yaml"], value⟩
  | .json, value => ⟨["source.json", "punctuation.definition.string.json"], value⟩

/-- Everything that is no key. -/
def plainToken (grammar : Grammar) (value : Text) : Token := ⟨[grammar.baseScope], value⟩

end Grammar

end ApiLint
