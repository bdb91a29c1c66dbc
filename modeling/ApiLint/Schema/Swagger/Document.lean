import ApiLint.Schema.Swagger.Form

/-!
# The parts of a document

The service, its paths and operations, and their responses.
-/

namespace ApiLint.Schema.Swagger

/-- General information about the service. -/
def info : Json :=
  keywords [
    ("type", .string "object"),
    ("required", strings ["version", "title"]),
    closed,
    extensions,
    ("properties", keywords [
        ("title", typed "string"),
        ("version", typed "string"),
        ("description", typed "string"),
        ("termsOfService", typed "string"),
        ("contact", definition "contact"),
        ("license", definition "license")])]

/-- Whom to ask about the service. -/
def contact : Json :=
  keywords [
    ("type", .string "object"),
    closed,
    ("properties", keywords [
        ("name", typed "string"),
        ("url", formatted "uri"),
        ("email", formatted "email")]),
    extensions]

def license : Json :=
  keywords [
    ("type", .string "object"),
    ("required", strings ["name"]),
    closed,
    ("properties", keywords [("name", typed "string"), ("url", formatted "uri")]),
    extensions]

/-- The paths of the service; each begins with a slash. -/
def paths : Json :=
  keywords [
    ("type", .string "object"),
    ("patternProperties", keywords [
        ("^x-", definition "vendorExtension"),
        ("^/", definition "pathItem")]),
    closed]

/-- The schemas that a document shares, by name. -/
def definitions : Json := mapOf (definition "schema")

/-- The parameters that a document shares, by name. -/
def parameterDefinitions : Json := mapOf (definition "parameter")

/-- The responses that a document shares, by name. -/
def responseDefinitions : Json := mapOf (definition "response")

def externalDocs : Json :=
  keywords [
    ("type", .string "object"),
    closed,
    ("required", strings ["url"]),
    ("properties", keywords [("description", typed "string"), ("url", formatted "uri")]),
    extensions]

/-- Examples of a response, by media type. -/
def examples : Json := mapOf (.bool true)

def mimeType : Json := typed "string"

/-- What a service does on a path for one method. -/
def operation : Json :=
  keywords [
    ("type", .string "object"),
    ("required", strings ["responses"]),
    closed,
    extensions,
    ("properties", keywords [
        ("tags", setOf (typed "string")),
        ("summary", typed "string"),
        ("description", typed "string"),
        ("externalDocs", definition "externalDocs"),
        ("operationId", typed "string"),
        ("produces", every [definition "mediaTypeList"]),
        ("consumes", every [definition "mediaTypeList"]),
        ("parameters", definition "parametersList"),
        ("responses", definition "responses"),
        ("schemes", definition "schemesList"),
        ("deprecated", typed "boolean"),
        ("security", definition "security")])]

def pathItem : Json :=
  keywords [
    ("type", .string "object"),
    closed,
    extensions,
    ("properties", keywords [
        ("$ref", typed "string"),
        ("get", definition "operation"),
        ("put", definition "operation"),
        ("post", definition "operation"),
        ("delete", definition "operation"),
        ("options", definition "operation"),
        ("head", definition "operation"),
        ("patch", definition "operation"),
        ("parameters", definition "parametersList")])]

/-- The responses of an operation, by status code or for all others. -/
def responses : Json :=
  keywords [
    ("type", .string "object"),
    ("minProperties", whole 1),
    closed,
    ("patternProperties", keywords [
        ("^([0-9]\x7b3\x7d)$|^(default)$", definition "responseValue"),
        ("^x-", definition "vendorExtension")]),
    ("not", keywords [
        ("type", .string "object"),
        closed,
        extensions])]

def responseValue : Json := exactlyOne [definition "response", definition "jsonReference"]

def response : Json :=
  keywords [
    ("type", .string "object"),
    ("required", strings ["description"]),
    ("properties", keywords [
        ("description", typed "string"),
        ("schema", exactlyOne [definition "schema", definition "fileSchema"]),
        ("headers", definition "headers"),
        ("examples", definition "examples")]),
    closed,
    extensions]

/-- The headers of a response, by name. -/
def headers : Json := mapOf (definition "header")

def header : Json :=
  keywords [
    ("type", .string "object"),
    closed,
    ("required", strings ["type"]),
    ("properties", keywords [
        ("type", oneString ["string", "number", "integer", "boolean", "array"]),
        ("format", typed "string"),
        ("items", definition "primitivesItems"),
        ("collectionFormat", definition "collectionFormat"),
        ("default", definition "default"),
        ("maximum", definition "maximum"),
        ("exclusiveMaximum", definition "exclusiveMaximum"),
        ("minimum", definition "minimum"),
        ("exclusiveMinimum", definition "exclusiveMinimum"),
        ("maxLength", definition "maxLength"),
        ("minLength", definition "minLength"),
        ("pattern", definition "pattern"),
        ("maxItems", definition "maxItems"),
        ("minItems", definition "minItems"),
        ("uniqueItems", definition "uniqueItems"),
        ("enum", definition "enum"),
        ("multipleOf", definition "multipleOf"),
        ("description", typed "string")]),
    extensions]

/-- A member whose name begins with `x-`, which may be anything. -/
def vendorExtension : Json :=
  keywords [
    ("additionalProperties", .bool true),
    ("additionalItems", .bool true)]

def xml : Json :=
  keywords [
    ("type", .string "object"),
    closed,
    ("properties", keywords [
        ("name", typed "string"),
        ("namespace", typed "string"),
        ("prefix", typed "string"),
        ("attribute", typed "boolean"),
        ("wrapped", typed "boolean")]),
    extensions]

/-- A name that groups operations. -/
def tag : Json :=
  keywords [
    ("type", .string "object"),
    closed,
    ("required", strings ["name"]),
    ("properties", keywords [
        ("name", typed "string"),
        ("description", typed "string"),
        ("externalDocs", definition "externalDocs")]),
    extensions]

def mediaTypeList : Json := setOf (definition "mimeType")

/-- The transfer protocols of a service. -/
def schemesList : Json := setOf (oneString ["http", "https", "ws", "wss"])

/-- A reference to a part of the document. -/
def jsonReference : Json :=
  keywords [
    ("type", .string "object"),
    ("required", strings ["$ref"]),
    closed,
    ("properties", keywords [("$ref", typed "string")])]

end ApiLint.Schema.Swagger
