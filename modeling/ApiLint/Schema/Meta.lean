import ApiLint.Schema.Meta.Four
import ApiLint.Schema.Meta.Nineteen
import ApiLint.Schema.Meta.Seven
import ApiLint.Schema.Meta.Six
import ApiLint.Schema.Meta.Twenty
import ApiLint.Schema.Registry

/-!
# The schemas of schemas

Each edition of the schema language comes with a schema that says what a schema may be.
References in any schema can reach these.
-/

namespace ApiLint.Schema.Meta

def schemaOf : Draft → Json
  | .four => Four.schema
  | .six => Six.schema
  | .seven => Seven.schema
  | .nineteen => Nineteen.schema
  | .twenty => Twenty.schema

/-- The resources of all editions. -/
def registry : Registry :=
  let documents : List (Draft × Json) :=
    [(.four, Four.schema), (.six, Six.schema), (.seven, Seven.schema)]
      ++ Nineteen.all.map (Draft.nineteen, ·) ++ Twenty.all.map (Draft.twenty, ·)
  documents.foldr (fun (draft, schema) rest => (Registry.ofDocument draft schema).union rest) .empty

end ApiLint.Schema.Meta
