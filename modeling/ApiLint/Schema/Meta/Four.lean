import ApiLint.Schema.Draft
import ApiLint.Schema.Writing

/-!
# The schema of schemas of edition 4

In this edition a limit is excluded by a keyword of its own.
-/

namespace ApiLint.Schema.Meta.Four

/-- A schema inside a schema. -/
def inner : Json := ref "#"

def schema : Json :=
  keywords [
    ("id", .string Draft.four.identifier),
    ("$schema", .string Draft.four.identifier),
    ("definitions", keywords [
        ("schemaArray", keywords [
            ("type", .string "array"),
            ("minItems", whole 1),
            ("items", inner)]),
        ("positiveInteger", keywords [("type", .string "integer"), ("minimum", whole 0)]),
        ("positiveIntegerDefault0", every [ref "#/definitions/positiveInteger", keywords []]),
        ("simpleTypes", oneKind),
        ("stringArray", keywords [
            ("type", .string "array"),
            ("items", typed "string"),
            ("minItems", whole 1),
            ("uniqueItems", .bool true)])]),
    ("type", .string "object"),
    ("properties", keywords [
        ("id", formatted "uri"),
        ("$schema", formatted "uri"),
        ("title", typed "string"),
        ("description", typed "string"),
        ("default", keywords []),
        ("multipleOf", keywords [
            ("type", .string "number"),
            ("minimum", whole 0),
            ("exclusiveMinimum", .bool true)]),
        ("maximum", typed "number"),
        ("exclusiveMaximum", typed "boolean"),
        ("minimum", typed "number"),
        ("exclusiveMinimum", typed "boolean"),
        ("maxLength", ref "#/definitions/positiveInteger"),
        ("minLength", ref "#/definitions/positiveIntegerDefault0"),
        ("pattern", formatted "regex"),
        ("additionalItems", anyOne [typed "boolean", inner]),
        ("items", anyOne [inner, ref "#/definitions/schemaArray"]),
        ("maxItems", ref "#/definitions/positiveInteger"),
        ("minItems", ref "#/definitions/positiveIntegerDefault0"),
        ("uniqueItems", typed "boolean"),
        ("maxProperties", ref "#/definitions/positiveInteger"),
        ("minProperties", ref "#/definitions/positiveIntegerDefault0"),
        ("required", ref "#/definitions/stringArray"),
        ("additionalProperties", anyOne [typed "boolean", inner]),
        ("definitions", mapOf inner),
        ("properties", mapOf inner),
        ("patternProperties", mapOf inner),
        ("dependencies", mapOf (anyOne [inner, ref "#/definitions/stringArray"])),
        ("enum", typed "array"),
        ("type", anyOne [
            ref "#/definitions/simpleTypes",
            keywords [
              ("type", .string "array"),
              ("items", ref "#/definitions/simpleTypes"),
              ("minItems", whole 1),
              ("uniqueItems", .bool true)]]),
        ("format", typed "string"),
        ("allOf", ref "#/definitions/schemaArray"),
        ("anyOf", ref "#/definitions/schemaArray"),
        ("oneOf", ref "#/definitions/schemaArray"),
        ("not", inner)]),
    ("dependencies", keywords [
        ("exclusiveMaximum", strings ["maximum"]),
        ("exclusiveMinimum", strings ["minimum"])])]

end ApiLint.Schema.Meta.Four
