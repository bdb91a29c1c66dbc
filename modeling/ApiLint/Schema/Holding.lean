import ApiLint.Json.Value

/-!
# Where schemas stand inside a schema

The operand of a keyword is a schema, a list of schemas, a table of schemas by name, or
holds no schema at all.
-/

namespace ApiLint.Schema

/-- What an operand holds. -/
inductive Holding where
  | nothing
  | oneSchema
  | list
  | table
  deriving DecidableEq, Repr, Inhabited

def holding (keyword : String) (operand : Json) : Holding :=
  if ["additionalItems", "additionalProperties", "contains", "contentSchema", "else", "if", "not",
      "propertyNames", "then", "unevaluatedItems", "unevaluatedProperties"].contains keyword then
    .oneSchema
  else if ["allOf", "anyOf", "oneOf", "prefixItems"].contains keyword then .list
  else if keyword = "items" then
    match operand with
    | .array _ => .list
    | _ => .oneSchema
  else if ["$defs", "definitions", "dependencies", "dependentSchemas", "patternProperties",
      "properties"].contains keyword then
    .table
  else .nothing

/-- The schemas that the operand of a keyword holds, in order. -/
def heldBy (keyword : String) (operand : Json) : List Json :=
  match holding keyword operand, operand with
  | .oneSchema, schema => [schema]
  | .list, .array schemas => schemas
  | .table, .object table => table.map (·.2)
  | _, _ => []

end ApiLint.Schema
