import ApiLint.Schema.Draft
import ApiLint.Schema.Writing

/-!
# The schema of schemas of edition 7

This edition adds conditions and the content of strings.
-/

namespace ApiLint.Schema.Meta.Seven

/-- A schema inside a schema. -/
def inner : Json := ref "#"

def schema : Json :=
  keywords [
    ("$schema", .string Draft.seven.identifier),
    ("$id", .string Draft.seven.identifier),
    ("definitions", keywords [
        ("schemaArray", keywords [
            ("type", .string "array"),
            ("minItems", whole 1),
            ("items", inner)]),
        ("nonNegativeInteger", keywords [("type", .string "integer"), ("minimum", whole 0)]),
        ("nonNegativeIntegerDefault0", every [ref "#/definitions/nonNegativeInteger", keywords []]),
        ("simpleTypes", oneKind),
        ("stringArray", setOf (typed "string"))]),
    ("type", strings ["object", "boolean"]),
    ("properties", keywords [
        ("$id", formatted "uri-reference"),
        ("$schema", formatted "uri"),
        ("$ref", formatted "uri-reference"),
        ("$comment", typed "string"),
        ("title", typed "string"),
        ("description", typed "string"),
        ("default", .bool true),
        ("readOnly", typed "boolean"),
        ("examples", listOf (.bool true)),
        ("multipleOf", keywords [("type", .string "number"), ("exclusiveMinimum", whole 0)]),
        ("maximum", typed "number"),
        ("exclusiveMaximum", typed "number"),
        ("minimum", typed "number"),
        ("exclusiveMinimum", typed "number"),
        ("maxLength", ref "#/definitions/nonNegativeInteger"),
        ("minLength", ref "#/definitions/nonNegativeIntegerDefault0"),
        ("pattern", formatted "regex"),
        ("additionalItems", inner),
        ("items", anyOne [inner, ref "#/definitions/schemaArray"]),
        ("maxItems", ref "#/definitions/nonNegativeInteger"),
        ("minItems", ref "#/definitions/nonNegativeIntegerDefault0"),
        ("uniqueItems", typed "boolean"),
        ("contains", inner),
        ("maxProperties", ref "#/definitions/nonNegativeInteger"),
        ("minProperties", ref "#/definitions/nonNegativeIntegerDefault0"),
        ("required", ref "#/definitions/stringArray"),
        ("additionalProperties", inner),
        ("definitions", mapOf inner),
        ("properties", mapOf inner),
        ("patternProperties", keywords [
            ("type", .string "object"),
            ("additionalProperties", inner),
            ("propertyNames", keywords [("format", .string "regex")])]),
        ("dependencies", mapOf (anyOne [inner, ref "#/definitions/stringArray"])),
        ("propertyNames", inner),
        ("const", .bool true),
        ("enum", listOf (.bool true)),
        ("type", anyOne [
            ref "#/definitions/simpleTypes",
            keywords [
              ("type", .string "array"),
              ("items", ref "#/definitions/simpleTypes"),
              ("minItems", whole 1),
              ("uniqueItems", .bool true)]]),
        ("format", typed "string"),
        ("contentMediaType", typed "string"),
        ("contentEncoding", typed "string"),
        ("if", inner),
        ("then", inner),
        ("else", inner),
        ("allOf", ref "#/definitions/schemaArray"),
        ("anyOf", ref "#/definitions/schemaArray"),
        ("oneOf", ref "#/definitions/schemaArray"),
        ("not", inner)])]

end ApiLint.Schema.Meta.Seven
