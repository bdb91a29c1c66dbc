import ApiLint.Grammar
import ApiLint.Json.Reader
import ApiLint.Yaml.Document
import ApiLint.Yaml.Json

/-!
# Reading documents

The grammar of a document is told from its path and its text, and the text read by it.
Either way the answer is a JSON value, the shape that schemas are written for.
-/

namespace ApiLint

/-- Why a document has no value. -/
inductive DocumentError where
  | json (error : Json.ReadError)
  | yaml (error : Yaml.ReadError)
  deriving Repr, Inhabited

def DocumentError.message : DocumentError → String
  | .json error => error.message
  | .yaml error => error.message

/-- The value of a document that claims to come from a path. -/
def readDocument (path text : Text) : Except DocumentError Json :=
  match Grammar.detect (some path) text with
  | .json => (Json.read (String.ofList text)).mapError .json
  | .yaml => ((Yaml.read text).mapError .yaml).map Yaml.toJson

end ApiLint
