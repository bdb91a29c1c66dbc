import ApiLint.Schema.Swagger.Document
import ApiLint.Schema.Swagger.Parameter
import ApiLint.Schema.Swagger.Security
import ApiLint.Schema.Swagger.Value

/-!
# The schema of Swagger documents

The schema that documents of version 2.0 are checked against when no other is given. It is
written in the earliest edition. What only describes a document, and demands nothing of it,
is left out.
-/

namespace ApiLint.Schema.Swagger

/-- The definitions of the schema, by name. -/
def definitionTable : List (String × Json) := [
  ("info", info),
  ("contact", contact),
  ("license", license),
  ("paths", paths),
  ("definitions", definitions),
  ("parameterDefinitions", parameterDefinitions),
  ("responseDefinitions", responseDefinitions),
  ("externalDocs", externalDocs),
  ("examples", examples),
  ("mimeType", mimeType),
  ("operation", operation),
  ("pathItem", pathItem),
  ("responses", responses),
  ("responseValue", responseValue),
  ("response", response),
  ("headers", headers),
  ("header", header),
  ("vendorExtension", vendorExtension),
  ("bodyParameter", bodyParameter),
  ("headerParameterSubSchema", headerParameterSubSchema),
  ("queryParameterSubSchema", queryParameterSubSchema),
  ("formDataParameterSubSchema", formDataParameterSubSchema),
  ("pathParameterSubSchema", pathParameterSubSchema),
  ("nonBodyParameter", nonBodyParameter),
  ("parameter", parameter),
  ("schema", schema),
  ("fileSchema", fileSchema),
  ("primitivesItems", primitivesItems),
  ("security", security),
  ("securityRequirement", securityRequirement),
  ("xml", xml),
  ("tag", tag),
  ("securityDefinitions", securityDefinitions),
  ("basicAuthenticationSecurity", basicAuthenticationSecurity),
  ("apiKeySecurity", apiKeySecurity),
  ("oauth2ImplicitSecurity", oauth2ImplicitSecurity),
  ("oauth2PasswordSecurity", oauth2PasswordSecurity),
  ("oauth2ApplicationSecurity", oauth2ApplicationSecurity),
  ("oauth2AccessCodeSecurity", oauth2AccessCodeSecurity),
  ("oauth2Scopes", oauth2Scopes),
  ("mediaTypeList", mediaTypeList),
  ("parametersList", parametersList),
  ("schemesList", schemesList),
  ("collectionFormat", collectionFormat),
  ("collectionFormatWithMulti", collectionFormatWithMulti),
  ("title", title),
  ("description", description),
  ("default", defaultValue),
  ("multipleOf", multipleOf),
  ("maximum", maximum),
  ("exclusiveMaximum", exclusiveMaximum),
  ("minimum", minimum),
  ("exclusiveMinimum", exclusiveMinimum),
  ("maxLength", maxLength),
  ("minLength", minLength),
  ("pattern", pattern),
  ("maxItems", maxItems),
  ("minItems", minItems),
  ("uniqueItems", uniqueItems),
  ("enum", choices),
  ("jsonReference", jsonReference)]

def document : Json :=
  keywords [
    ("id", .string "http://swagger.io/v2/schema.json#"),
    ("$schema", .string "http://json-schema.org/draft-04/schema#"),
    ("type", .string "object"),
    ("required", strings ["swagger", "info", "paths"]),
    closed,
    extensions,
    ("properties", keywords [
        ("swagger", oneString ["2.0"]),
        ("info", definition "info"),
        ("host", keywords [
            ("type", .string "string"),
            ("pattern", .string "^[^\x7b\x7d/ :\\\\]+(?::\\d+)?$")]),
        ("basePath", keywords [("type", .string "string"), ("pattern", .string "^/")]),
        ("schemes", definition "schemesList"),
        ("consumes", every [definition "mediaTypeList"]),
        ("produces", every [definition "mediaTypeList"]),
        ("paths", definition "paths"),
        ("definitions", definition "definitions"),
        ("parameters", definition "parameterDefinitions"),
        ("responses", definition "responseDefinitions"),
        ("security", definition "security"),
        ("securityDefinitions", definition "securityDefinitions"),
        ("tags", setOf (definition "tag")),
        ("externalDocs", definition "externalDocs")]),
    ("definitions", keywords definitionTable)]

end ApiLint.Schema.Swagger
