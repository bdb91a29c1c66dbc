import ApiLint.Schema.Draft
import ApiLint.Schema.Writing

/-!
# The schema of schemas of edition 6

From this edition on a schema may be true or false, and excluded limits are numbers.
-/

namespace ApiLint.Schema.Meta.Six

/-- A schema inside a schema. -/
def inner : Json := ref "#"

def schema : Json :=
  keywords [
    ("$schema", .string Draft.six.identifier),
    ("$id", .string Draft.six.identifier),
    ("definitions", keywords [
        ("schemaArray", keywords [
            ("type", .string "array"),
            ("minItems", whole 1),
            ("items", inner)]),
        ("nonNegativeInteger", keywords [("type", .string "integer"), ("minimum", whole 0)]),
        ("nonNegativeIntegerDefault0", every [ref "#/definitions/nonNegativeInteger", keywords []]),
        ("simpleTypes", oneKind),
        ("stringArray", setOf (typed "string"))]),
    ("type", strings ["object", "boolean"]),
    ("properties", keywords [
        ("$id", formatted "uri-reference"),
        ("$schema", formatted "uri"),
        ("$ref", formatted "uri-reference"),
        ("title", typed "string"),
        ("description", typed "string"),
        ("default", keywords []),
        ("examples", listOf (keywords [])),
        ("multipleOf", keywords [("type", .string "number"), ("exclusiveMinimum", whole 0)]),
        ("maximum", typed "number"),
        ("exclusiveMaximum", typed "number"),
        ("minimum", typed "number"),
        ("exclusiveMinimum", typed "number"),
        ("maxLength", ref "#/definitions/nonNegativeInteger"),
        ("minLength", ref "#/definitions/nonNegativeIntegerDefault0"),
        ("pattern", formatted "regex"),
        ("additionalItems", inner),
        ("items", anyOne [inner, ref "#/definitions/schemaArray"]),
        ("maxItems", ref "#/definitions/nonNegativeInteger"),
        ("minItems", ref "#/definitions/nonNegativeIntegerDefault0"),
        ("uniqueItems", typed "boolean"),
        ("contains", inner),
        ("maxProperties", ref "#/definitions/nonNegativeInteger"),
        ("minProperties", ref "#/definitions/nonNegativeIntegerDefault0"),
        ("required", ref "#/definitions/stringArray"),
        ("additionalProperties", inner),
        ("definitions", mapOf inner),
        ("properties", mapOf inner),
        ("patternProperties", keywords [
            ("type", .string "object"),
            ("additionalProperties", inner),
            ("propertyNames", keywords [("format", .string "regex")])]),
        ("dependencies", mapOf (anyOne [inner, ref "#/definitions/stringArray"])),
        ("propertyNames", inner),
        ("const", keywords []),
        ("enum", typed "array"),
        ("type", anyOne [
            ref "#/definitions/simpleTypes",
            keywords [
              ("type", .string "array"),
              ("items", ref "#/definitions/simpleTypes"),
              ("minItems", whole 1),
              ("uniqueItems", .bool true)]]),
        ("format", typed "string"),
        ("allOf", ref "#/definitions/schemaArray"),
        ("anyOf", ref "#/definitions/schemaArray"),
        ("oneOf", ref "#/definitions/schemaArray"),
        ("not", inner)])]

end ApiLint.Schema.Meta.Six
