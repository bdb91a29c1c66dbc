import ApiLint.Json.Value

/-!
# Short forms for schemas

The schemas that come with this library are written with these forms. Members are put in
order by the forms, so they may be listed in any order.
-/

namespace ApiLint.Schema

def keywords (members : List (String × Json)) : Json := .object (Json.Members.ofList members)

def strings (names : List String) : Json := .array (names.map .string)

def whole (n : Int) : Json := .number (.int n)

def typed (kind : String) : Json := keywords [("type", .string kind)]

def ref (uri : String) : Json := keywords [("$ref", .string uri)]

def oneString (names : List String) : Json :=
  keywords [("type", .string "string"), ("enum", strings names)]

def formatted (name : String) : Json :=
  keywords [("type", .string "string"), ("format", .string name)]

/-- The demand to be a list of values that a schema accepts. -/
def listOf (item : Json) : Json := keywords [("type", .string "array"), ("items", item)]

/-- The demand to be a list of different values that a schema accepts. -/
def setOf (item : Json) : Json :=
  keywords [("type", .string "array"), ("items", item), ("uniqueItems", .bool true)]

/-- The demand to be an object whose members a schema accepts. -/
def mapOf (value : Json) : Json :=
  keywords [("type", .string "object"), ("additionalProperties", value)]

def exactlyOne (schemas : List Json) : Json := keywords [("oneOf", .array schemas)]

/-- The demand to be accepted by some of some schemas. -/
def anyOne (schemas : List Json) : Json := keywords [("anyOf", .array schemas)]

/-- The demand to be accepted by all of some schemas. -/
def every (schemas : List Json) : Json := keywords [("allOf", .array schemas)]

/-- The demand to be the name of a kind. -/
def oneKind : Json :=
  keywords [("enum", strings ["array", "boolean", "integer", "null", "number", "object", "string"])]

end ApiLint.Schema
