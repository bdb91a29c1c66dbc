import ApiLint.Schema.Swagger.Form

/-!
# Schemas of values

A document describes values by a fixed part of the schema language.
-/

namespace ApiLint.Schema.Swagger

/-- The schema of a value that a service consumes or produces. -/
def schema : Json :=
  keywords [
    ("type", .string "object"),
    extensions,
    ("properties", keywords [
        ("$ref", typed "string"),
        ("format", typed "string"),
        ("title", keywordValue "title"),
        ("description", keywordValue "description"),
        ("default", keywordValue "default"),
        ("multipleOf", keywordValue "multipleOf"),
        ("maximum", keywordValue "maximum"),
        ("exclusiveMaximum", keywordValue "exclusiveMaximum"),
        ("minimum", keywordValue "minimum"),
        ("exclusiveMinimum", keywordValue "exclusiveMinimum"),
        ("maxLength", shared "positiveInteger"),
        ("minLength", shared "positiveIntegerDefault0"),
        ("pattern", keywordValue "pattern"),
        ("maxItems", shared "positiveInteger"),
        ("minItems", shared "positiveIntegerDefault0"),
        ("uniqueItems", keywordValue "uniqueItems"),
        ("maxProperties", shared "positiveInteger"),
        ("minProperties", shared "positiveIntegerDefault0"),
        ("required", shared "stringArray"),
        ("enum", keywordValue "enum"),
        ("additionalProperties", anyOne [definition "schema", typed "boolean"]),
        ("type", keywordValue "type"),
        ("items", anyOne [
            definition "schema",
            keywords [
              ("type", .string "array"),
              ("minItems", whole 1),
              ("items", definition "schema")]]),
        ("allOf", keywords [
            ("type", .string "array"),
            ("minItems", whole 1),
            ("items", definition "schema")]),
        ("properties", mapOf (definition "schema")),
        ("discriminator", typed "string"),
        ("readOnly", typed "boolean"),
        ("xml", definition "xml"),
        ("externalDocs", definition "externalDocs"),
        ("example", keywords [])]),
    closed]

def fileSchema : Json :=
  keywords [
    ("type", .string "object"),
    extensions,
    ("required", strings ["type"]),
    ("properties", keywords [
        ("format", typed "string"),
        ("title", keywordValue "title"),
        ("description", keywordValue "description"),
        ("default", keywordValue "default"),
        ("required", shared "stringArray"),
        ("type", oneString ["file"]),
        ("readOnly", typed "boolean"),
        ("externalDocs", definition "externalDocs"),
        ("example", keywords [])]),
    closed]

def title : Json := keywordValue "title"

def description : Json := keywordValue "description"

def defaultValue : Json := keywordValue "default"

def multipleOf : Json := keywordValue "multipleOf"

/-- An upper limit of a number. -/
def maximum : Json := keywordValue "maximum"

/-- Whether the upper limit is excluded. -/
def exclusiveMaximum : Json := keywordValue "exclusiveMaximum"

/-- A lower limit of a number. -/
def minimum : Json := keywordValue "minimum"

/-- Whether the lower limit is excluded. -/
def exclusiveMinimum : Json := keywordValue "exclusiveMinimum"

def maxLength : Json := shared "positiveInteger"

def minLength : Json := shared "positiveIntegerDefault0"

def pattern : Json := keywordValue "pattern"

/-- An upper limit of a number of items. -/
def maxItems : Json := shared "positiveInteger"

/-- A lower limit of a number of items. -/
def minItems : Json := shared "positiveIntegerDefault0"

def uniqueItems : Json := keywordValue "uniqueItems"

def choices : Json := keywordValue "enum"

end ApiLint.Schema.Swagger
