import ApiLint.Schema.Writing

/-!
# References in the schema of Swagger documents

The schema refers to its own definitions, and to parts of the schema of schemas.
-/

namespace ApiLint.Schema.Swagger

def definition (name : String) : Json := ref ("#/definitions/" ++ name)

/-- What may stand under a keyword of a schema. -/
def keywordValue (name : String) : Json :=
  ref ("http://json-schema.org/draft-04/schema#/properties/" ++ name)

/-- What may stand under several keywords of a schema. -/
def shared (name : String) : Json :=
  ref ("http://json-schema.org/draft-04/schema#/definitions/" ++ name)

/-- The members that may be anything: those whose names begin with `x-`. -/
def extensions : String × Json :=
  ("patternProperties", keywords [("^x-", definition "vendorExtension")])

/-- The keyword that forbids members that nothing else speaks about. -/
def closed : String × Json := ("additionalProperties", .bool false)

end ApiLint.Schema.Swagger
