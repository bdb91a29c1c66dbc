import ApiLint.Schema.Swagger.Form

/-!
# Parameters

A parameter is the body of a request, or stands in a header, a query, a form or a path.
-/

namespace ApiLint.Schema.Swagger

def bodyParameter : Json :=
  keywords [
    ("type", .string "object"),
    ("required", strings ["name", "in", "schema"]),
    extensions,
    ("properties", keywords [
        ("description", typed "string"),
        ("name", typed "string"),
        ("in", oneString ["body"]),
        ("required", typed "boolean"),
        ("schema", definition "schema")]),
    closed]

def headerParameterSubSchema : Json :=
  keywords [
    closed,
    extensions,
    ("properties", keywords [
        ("required", typed "boolean"),
        ("in", oneString ["header"]),
        ("description", typed "string"),
        ("name", typed "string"),
        ("type", oneString ["string", "number", "boolean", "integer", "array"]),
        ("format", typed "string"),
        ("items", definition "primitivesItems"),
        ("collectionFormat", definition "collectionFormat"),
        ("default", definition "default"),
        ("maximum", definition "maximum"),
        ("exclusiveMaximum", definition "exclusiveMaximum"),
        ("minimum", definition "minimum"),
        ("exclusiveMinimum", definition "exclusiveMinimum"),
        ("maxLength", definition "maxLength"),
        ("minLength", definition "minLength"),
        ("pattern", definition "pattern"),
        ("maxItems", definition "maxItems"),
        ("minItems", definition "minItems"),
        ("uniqueItems", definition "uniqueItems"),
        ("enum", definition "enum"),
        ("multipleOf", definition "multipleOf")])]

def queryParameterSubSchema : Json :=
  keywords [
    closed,
    extensions,
    ("properties", keywords [
        ("required", typed "boolean"),
        ("in", oneString ["query"]),
        ("description", typed "string"),
        ("name", typed "string"),
        ("allowEmptyValue", typed "boolean"),
        ("type", oneString ["string", "number", "boolean", "integer", "array"]),
        ("format", typed "string"),
        ("items", definition "primitivesItems"),
        ("collectionFormat", definition "collectionFormatWithMulti"),
        ("default", definition "default"),
        ("maximum", definition "maximum"),
        ("exclusiveMaximum", definition "exclusiveMaximum"),
        ("minimum", definition "minimum"),
        ("exclusiveMinimum", definition "exclusiveMinimum"),
        ("maxLength", definition "maxLength"),
        ("minLength", definition "minLength"),
        ("pattern", definition "pattern"),
        ("maxItems", definition "maxItems"),
        ("minItems", definition "minItems"),
        ("uniqueItems", definition "uniqueItems"),
        ("enum", definition "enum"),
        ("multipleOf", definition "multipleOf")])]

def formDataParameterSubSchema : Json :=
  keywords [
    closed,
    extensions,
    ("properties", keywords [
        ("required", typed "boolean"),
        ("in", oneString ["formData"]),
        ("description", typed "string"),
        ("name", typed "string"),
        ("allowEmptyValue", typed "boolean"),
        ("type", oneString ["string", "number", "boolean", "integer", "array", "file"]),
        ("format", typed "string"),
        ("items", definition "primitivesItems"),
        ("collectionFormat", definition "collectionFormatWithMulti"),
        ("default", definition "default"),
        ("maximum", definition "maximum"),
        ("exclusiveMaximum", definition "exclusiveMaximum"),
        ("minimum", definition "minimum"),
        ("exclusiveMinimum", definition "exclusiveMinimum"),
        ("maxLength", definition "maxLength"),
        ("minLength", definition "minLength"),
        ("pattern", definition "pattern"),
        ("maxItems", definition "maxItems"),
        ("minItems", definition "minItems"),
        ("uniqueItems", definition "uniqueItems"),
        ("enum", definition "enum"),
        ("multipleOf", definition "multipleOf")])]

/-- What is particular to a parameter in a path, which is always required. -/
def pathParameterSubSchema : Json :=
  keywords [
    closed,
    extensions,
    ("required", strings ["required"]),
    ("properties", keywords [
        ("required", keywords [
            ("type", .string "boolean"),
            ("enum", .array [.bool true])]),
        ("in", oneString ["path"]),
        ("description", typed "string"),
        ("name", typed "string"),
        ("type", oneString ["string", "number", "boolean", "integer", "array"]),
        ("format", typed "string"),
        ("items", definition "primitivesItems"),
        ("collectionFormat", definition "collectionFormat"),
        ("default", definition "default"),
        ("maximum", definition "maximum"),
        ("exclusiveMaximum", definition "exclusiveMaximum"),
        ("minimum", definition "minimum"),
        ("exclusiveMinimum", definition "exclusiveMinimum"),
        ("maxLength", definition "maxLength"),
        ("minLength", definition "minLength"),
        ("pattern", definition "pattern"),
        ("maxItems", definition "maxItems"),
        ("minItems", definition "minItems"),
        ("uniqueItems", definition "uniqueItems"),
        ("enum", definition "enum"),
        ("multipleOf", definition "multipleOf")])]

def nonBodyParameter : Json :=
  keywords [
    ("type", .string "object"),
    ("required", strings ["name", "in", "type"]),
    ("oneOf", .array [
        definition "headerParameterSubSchema",
        definition "formDataParameterSubSchema",
        definition "queryParameterSubSchema",
        definition "pathParameterSubSchema"])]

def parameter : Json := exactlyOne [definition "bodyParameter", definition "nonBodyParameter"]

/-- The items of a list in a parameter or a header. -/
def primitivesItems : Json :=
  keywords [
    ("type", .string "object"),
    closed,
    ("properties", keywords [
        ("type", oneString ["string", "number", "integer", "boolean", "array"]),
        ("format", typed "string"),
        ("items", definition "primitivesItems"),
        ("collectionFormat", definition "collectionFormat"),
        ("default", definition "default"),
        ("maximum", definition "maximum"),
        ("exclusiveMaximum", definition "exclusiveMaximum"),
        ("minimum", definition "minimum"),
        ("exclusiveMinimum", definition "exclusiveMinimum"),
        ("maxLength", definition "maxLength"),
        ("minLength", definition "minLength"),
        ("pattern", definition "pattern"),
        ("maxItems", definition "maxItems"),
        ("minItems", definition "minItems"),
        ("uniqueItems", definition "uniqueItems"),
        ("enum", definition "enum"),
        ("multipleOf", definition "multipleOf")]),
    extensions]

/-- The parameters of an operation or path. -/
def parametersList : Json :=
  keywords [
    ("type", .string "array"),
    ("additionalItems", .bool false),
    ("items", exactlyOne [definition "parameter", definition "jsonReference"]),
    ("uniqueItems", .bool true)]

/-- How the items of a list are separated. -/
def collectionFormat : Json := oneString ["csv", "ssv", "tsv", "pipes"]

/-- How the items of a list are separated, where the name may also be repeated. -/
def collectionFormatWithMulti : Json := oneString ["csv", "ssv", "tsv", "pipes", "multi"]

end ApiLint.Schema.Swagger
