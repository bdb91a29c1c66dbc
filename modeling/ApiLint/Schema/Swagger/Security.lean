import ApiLint.Schema.Swagger.Form

/-!
# Security schemes

A service may ask for a password, a key, or an authorization of one of four flows.
-/

namespace ApiLint.Schema.Swagger

/-- The security requirements of a service or operation. -/
def security : Json := setOf (definition "securityRequirement")

/-- A security requirement: the scopes needed of each scheme. -/
def securityRequirement : Json := mapOf (setOf (typed "string"))

/-- The security schemes of a service, by name. -/
def securityDefinitions : Json :=
  mapOf (exactlyOne [
    definition "basicAuthenticationSecurity",
    definition "apiKeySecurity",
    definition "oauth2ImplicitSecurity",
    definition "oauth2PasswordSecurity",
    definition "oauth2ApplicationSecurity",
    definition "oauth2AccessCodeSecurity"])

/-- A name and a password in a header. -/
def basicAuthenticationSecurity : Json :=
  keywords [
    ("type", .string "object"),
    closed,
    ("required", strings ["type"]),
    ("properties", keywords [
        ("type", oneString ["basic"]),
        ("description", typed "string")]),
    extensions]

def apiKeySecurity : Json :=
  keywords [
    ("type", .string "object"),
    closed,
    ("required", strings ["type", "name", "in"]),
    ("properties", keywords [
        ("type", oneString ["apiKey"]),
        ("name", typed "string"),
        ("in", oneString ["header", "query"]),
        ("description", typed "string")]),
    extensions]

/-- The implicit flow of authorization. -/
def oauth2ImplicitSecurity : Json :=
  keywords [
    ("type", .string "object"),
    closed,
    ("required", strings ["type", "flow", "authorizationUrl"]),
    ("properties", keywords [
        ("type", oneString ["oauth2"]),
        ("flow", oneString ["implicit"]),
        ("scopes", definition "oauth2Scopes"),
        ("authorizationUrl", formatted "uri"),
        ("description", typed "string")]),
    extensions]

/-- The password flow of authorization. -/
def oauth2PasswordSecurity : Json :=
  keywords [
    ("type", .string "object"),
    closed,
    ("required", strings ["type", "flow", "tokenUrl"]),
    ("properties", keywords [
        ("type", oneString ["oauth2"]),
        ("flow", oneString ["password"]),
        ("scopes", definition "oauth2Scopes"),
        ("tokenUrl", formatted "uri"),
        ("description", typed "string")]),
    extensions]

/-- The application flow of authorization. -/
def oauth2ApplicationSecurity : Json :=
  keywords [
    ("type", .string "object"),
    closed,
    ("required", strings ["type", "flow", "tokenUrl"]),
    ("properties", keywords [
        ("type", oneString ["oauth2"]),
        ("flow", oneString ["application"]),
        ("scopes", definition "oauth2Scopes"),
        ("tokenUrl", formatted "uri"),
        ("description", typed "string")]),
    extensions]

def oauth2AccessCodeSecurity : Json :=
  keywords [
    ("type", .string "object"),
    closed,
    ("required", strings ["type", "flow", "authorizationUrl", "tokenUrl"]),
    ("properties", keywords [
        ("type", oneString ["oauth2"]),
        ("flow", oneString ["accessCode"]),
        ("scopes", definition "oauth2Scopes"),
        ("authorizationUrl", formatted "uri"),
        ("tokenUrl", formatted "uri"),
        ("description", typed "string")]),
    extensions]

def oauth2Scopes : Json := mapOf (typed "string")

end ApiLint.Schema.Swagger
