import ApiLint.Schema.Draft
import ApiLint.Schema.Writing

/-!
# The schema of schemas of edition 2019

The schema is put together of several vocabularies, each of which applies the whole to the
schemas inside by a recursive reference.
-/

namespace ApiLint.Schema.Meta.Nineteen

/-- A schema inside a schema. -/
def inner : Json := keywords [("$recursiveRef", .string "#")]

/-- What identifies schemas and refers to them. -/
def core : Json :=
  keywords [
    ("$schema", .string Draft.nineteen.identifier),
    ("$id", .string (Draft.nineteen.vocabulary "core")),
    ("$recursiveAnchor", .bool true),
    ("type", strings ["object", "boolean"]),
    ("properties", keywords [
        ("$id", keywords [
            ("type", .string "string"),
            ("format", .string "uri-reference"),
            ("pattern", .string "^[^#]*#?$")]),
        ("$schema", formatted "uri"),
        ("$anchor", keywords [
            ("type", .string "string"),
            ("pattern", .string "^[A-Za-z][-A-Za-z0-9.:_]*$")]),
        ("$ref", formatted "uri-reference"),
        ("$recursiveRef", formatted "uri-reference"),
        ("$recursiveAnchor", typed "boolean"),
        ("$vocabulary", keywords [
            ("type", .string "object"),
            ("propertyNames", formatted "uri"),
            ("additionalProperties", typed "boolean")]),
        ("$comment", typed "string"),
        ("$defs", mapOf inner)])]

/-- What applies schemas to parts of a value. -/
def applicator : Json :=
  keywords [
    ("$schema", .string Draft.nineteen.identifier),
    ("$id", .string (Draft.nineteen.vocabulary "applicator")),
    ("$recursiveAnchor", .bool true),
    ("type", strings ["object", "boolean"]),
    ("properties", keywords [
        ("additionalItems", inner),
        ("unevaluatedItems", inner),
        ("items", anyOne [inner, ref "#/$defs/schemaArray"]),
        ("contains", inner),
        ("additionalProperties", inner),
        ("unevaluatedProperties", inner),
        ("properties", mapOf inner),
        ("patternProperties", keywords [
            ("type", .string "object"),
            ("additionalProperties", inner),
            ("propertyNames", keywords [("format", .string "regex")])]),
        ("dependentSchemas", mapOf inner),
        ("propertyNames", inner),
        ("if", inner),
        ("then", inner),
        ("else", inner),
        ("allOf", ref "#/$defs/schemaArray"),
        ("anyOf", ref "#/$defs/schemaArray"),
        ("oneOf", ref "#/$defs/schemaArray"),
        ("not", inner)]),
    ("$defs", keywords [
        ("schemaArray", keywords [
            ("type", .string "array"),
            ("minItems", whole 1),
            ("items", inner)])])]

/-- What demands something of a value itself. -/
def validation : Json :=
  keywords [
    ("$schema", .string Draft.nineteen.identifier),
    ("$id", .string (Draft.nineteen.vocabulary "validation")),
    ("$recursiveAnchor", .bool true),
    ("type", strings ["object", "boolean"]),
    ("properties", keywords [
        ("type", anyOne [
            ref "#/$defs/simpleTypes",
            keywords [
              ("type", .string "array"),
              ("items", ref "#/$defs/simpleTypes"),
              ("minItems", whole 1),
              ("uniqueItems", .bool true)]]),
        ("const", .bool true),
        ("enum", listOf (.bool true)),
        ("multipleOf", keywords [("type", .string "number"), ("exclusiveMinimum", whole 0)]),
        ("maximum", typed "number"),
        ("exclusiveMaximum", typed "number"),
        ("minimum", typed "number"),
        ("exclusiveMinimum", typed "number"),
        ("maxLength", ref "#/$defs/nonNegativeInteger"),
        ("minLength", ref "#/$defs/nonNegativeIntegerDefault0"),
        ("pattern", formatted "regex"),
        ("maxItems", ref "#/$defs/nonNegativeInteger"),
        ("minItems", ref "#/$defs/nonNegativeIntegerDefault0"),
        ("uniqueItems", typed "boolean"),
        ("maxContains", ref "#/$defs/nonNegativeInteger"),
        ("minContains", ref "#/$defs/nonNegativeInteger"),
        ("maxProperties", ref "#/$defs/nonNegativeInteger"),
        ("minProperties", ref "#/$defs/nonNegativeIntegerDefault0"),
        ("required", ref "#/$defs/stringArray"),
        ("dependentRequired", mapOf (ref "#/$defs/stringArray"))]),
    ("$defs", keywords [
        ("nonNegativeInteger", keywords [("type", .string "integer"), ("minimum", whole 0)]),
        ("nonNegativeIntegerDefault0", ref "#/$defs/nonNegativeInteger"),
        ("simpleTypes", oneKind),
        ("stringArray", setOf (typed "string"))])]

def metaData : Json :=
  keywords [
    ("$schema", .string Draft.nineteen.identifier),
    ("$id", .string (Draft.nineteen.vocabulary "meta-data")),
    ("$recursiveAnchor", .bool true),
    ("type", strings ["object", "boolean"]),
    ("properties", keywords [
        ("title", typed "string"),
        ("description", typed "string"),
        ("default", .bool true),
        ("deprecated", typed "boolean"),
        ("readOnly", typed "boolean"),
        ("writeOnly", typed "boolean"),
        ("examples", listOf (.bool true))])]

def formats : Json :=
  keywords [
    ("$schema", .string Draft.nineteen.identifier),
    ("$id", .string (Draft.nineteen.vocabulary "format")),
    ("$recursiveAnchor", .bool true),
    ("type", strings ["object", "boolean"]),
    ("properties", keywords [("format", typed "string")])]

/-- What tells about the content of a string. -/
def content : Json :=
  keywords [
    ("$schema", .string Draft.nineteen.identifier),
    ("$id", .string (Draft.nineteen.vocabulary "content")),
    ("$recursiveAnchor", .bool true),
    ("type", strings ["object", "boolean"]),
    ("properties", keywords [
        ("contentEncoding", typed "string"),
        ("contentMediaType", typed "string"),
        ("contentSchema", inner)])]

def schema : Json :=
  keywords [
    ("$schema", .string Draft.nineteen.identifier),
    ("$id", .string Draft.nineteen.identifier),
    ("$recursiveAnchor", .bool true),
    ("allOf", .array [
        ref "meta/core",
        ref "meta/applicator",
        ref "meta/validation",
        ref "meta/meta-data",
        ref "meta/format",
        ref "meta/content"]),
    ("type", strings ["object", "boolean"]),
    ("properties", keywords [
        ("definitions", mapOf inner),
        ("dependencies", mapOf (anyOne [inner, ref "meta/validation#/$defs/stringArray"]))])]

/-- The schema and its vocabularies. -/
def all : List Json :=
  [schema, core, applicator, validation, metaData, formats, content]

end ApiLint.Schema.Meta.Nineteen
