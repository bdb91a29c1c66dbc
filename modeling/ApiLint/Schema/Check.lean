import ApiLint.Json.Size
import ApiLint.Schema.Unevaluated

/-!
# Checking a value against a schema

A schema that is an object applies its keywords in the order of their names; one that is
true or false accepts everything or nothing. In the earlier editions a reference hides the
other keywords of its schema.

Checking follows references, so it recurses on a bound. A step goes to another schema or to
a smaller value, and a check that comes to the same schema with the same value again would
never end; so the number of schemas times the depth of the value bounds every check that
ends at all.
-/

namespace ApiLint.Schema

/-- The keywords that apply schemas, in the editions that know them. -/
def Frame.applicator (frame : Frame) (fuel : Nat) (keyword : String) (operand value : Json) :
    Outcome :=
  let since (first : Nat) (outcome : Unit → Outcome) : Outcome :=
    if first ≤ frame.site.draft.edition then outcome () else .valid
  match keyword, operand, value with
  | "$dynamicRef", .string reference, _ =>
    since 2020 fun _ =>
      frame.followed keyword (frame.registry.resolve frame.site reference.toList) value
  | "$recursiveRef", _, _ =>
    if frame.site.draft = .nineteen then
      frame.followed keyword (frame.registry.resolveRecursive frame.site) value
    else .valid
  | "$ref", .string reference, _ =>
    frame.followed keyword (frame.registry.resolve frame.site reference.toList) value
  | "additionalItems", schema, .array items => frame.additionalItems schema items
  | "additionalProperties", schema, .object members => frame.additionalProperties schema members
  | "allOf", .array schemas, _ => frame.allOf schemas value
  | "anyOf", .array schemas, _ => frame.anyOf schemas value
  | "contains", schema, .array items => since 6 fun _ => frame.contains schema items
  | "dependencies", .object table, .object members => frame.dependencies table members
  | "dependentSchemas", .object schemas, .object members =>
    since 2019 fun _ => frame.dependentSchemas keyword schemas members
  | "if", schema, _ => since 7 fun _ => frame.conditional schema value
  | "items", schema, .array items => frame.items schema items
  | "not", schema, _ => frame.negation schema value
  | "oneOf", .array schemas, _ => frame.oneOf schemas value
  | "patternProperties", .object schemas, .object members =>
    if frame.takesOver then .valid else frame.patternProperties schemas members
  | "prefixItems", .array schemas, .array items =>
    since 2020 fun _ => frame.itemsByPlace keyword schemas items
  | "properties", .object schemas, .object members =>
    if frame.takesOver then .valid else frame.properties schemas members
  | "propertyNames", schema, .object members =>
    since 6 fun _ => frame.propertyNames schema members
  | "unevaluatedItems", _, .array items => since 2019 fun _ => frame.unevaluatedItems fuel items
  | "unevaluatedProperties", _, .object members =>
    since 2019 fun _ => frame.unevaluatedProperties fuel members
  | _, _, _ => .valid

/-- The keywords of a schema that are in force. -/
def activeKeywords (draft : Draft) (members : Json.Members) : Json.Members :=
  match draft.refHidesOthers, Json.Members.get? "$ref" members with
  | true, some reference => [("$ref", reference)]
  | _, _ => members

/-- A value checked against the schema at a site, in at most `fuel` steps into each other. -/
def checkWithin (registry : Registry) : Nat → Apply
  | 0, _, _, _, _ => .valid
  | fuel + 1, site, location, target, value =>
    match site.schema with
    | .bool false =>
      let finding : Finding := ⟨.falseSchema, value, target, location⟩
      ⟨[finding], [finding.unitAt location target]⟩
    | .object members =>
      let frame : Frame := ⟨registry, site, members, location, target, checkWithin registry fuel⟩
      .concat <| (activeKeywords site.draft members).map fun (keyword, operand) =>
        (frame.report keyword value (assertion site.draft members keyword operand value)).append
          (frame.applicator fuel keyword operand value)
    | _ => .valid

/-- The number of schemas that references can reach, at most. -/
def Registry.size (registry : Registry) : Nat :=
  registry.resources.foldr (fun resource held => resource.root.nodeCount + held) 1

def check (registry : Registry) (site : Site) (value : Json) : Outcome :=
  checkWithin registry ((registry.size + 1) * (value.depth + 1)) site [] [] value

end ApiLint.Schema
