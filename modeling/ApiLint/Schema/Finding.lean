import ApiLint.Json.Printer
import ApiLint.Pointer

/-!
# Findings of a schema check

A finding says which demand of a schema a value does not meet, where the value stands, and
by which keywords the demand was reached. Its wording names the value by its JSON text, or
in the masked form just as `value`.
-/

namespace ApiLint.Schema

/-- The demand that a value does not meet. -/
inductive Cause where
  | additionalItems (allowed : Nat)
  | additionalProperties (unexpected : List String)
  | anyOf
  | const (expected : Json)
  | contains
  | contentEncoding (name : String)
  | contentMediaType (name : String)
  | enumeration (choices : Json)
  | exclusiveMaximum (limit : Json.Number)
  | exclusiveMinimum (limit : Json.Number)
  | falseSchema
  | format (name : String)
  | maximum (limit : Json.Number)
  | maxItems (limit : Nat)
  | maxLength (limit : Nat)
  | maxProperties (limit : Nat)
  | minimum (limit : Json.Number)
  | minItems (limit : Nat)
  | minLength (limit : Nat)
  | minProperties (limit : Nat)
  | multipleOf (divisor : Json.Number)
  | not (schema : Json)
  | oneOfNone
  | oneOfSeveral
  | pattern (shown : String)
  | propertyName (name : String) (cause : Cause)
  | required (name : String)
  | type (names : List String)
  | unevaluatedItems (unexpected : List Json)
  | unevaluatedProperties (unexpected : List String)
  | uniqueItems
  deriving Repr, Inhabited

/-- A value that does not meet a demand, with the pointer to the value in its document and
the keywords passed on the way to the demand. -/
structure Finding where
  cause : Cause
  value : Json
  target : Pointer
  location : Pointer
  deriving Repr, Inhabited

/-- A number of things, with the ending that the number asks for. -/
def counted (n : Nat) (one many : String) : String :=
  let noun := if n = 1 then one else many
  s!"{n} {noun}"

/-- The end of a sentence about things that should not be there. -/
def unexpectedTail (shown : List String) : String :=
  let verb := if shown.length = 1 then "was" else "were"
  let names := ", ".intercalate shown
  s!"{names} {verb} unexpected"

def singleQuoted (name : String) : String := s!"'{name}'"

def doubleQuoted (name : String) : String := "\"" ++ name ++ "\""

namespace Cause

/-- The wording about a value that is shown as `shown`. Items past the allowed ones are
told by `extra`. -/
def describe (shown : String) (extra : Nat → String) : Cause → String
  | .additionalItems allowed => s!"Additional items are not allowed ({extra allowed})"
  | .additionalProperties unexpected =>
    s!"Additional properties are not allowed ({unexpectedTail (unexpected.map singleQuoted)})"
  | .anyOf => s!"{shown} is not valid under any of the schemas listed in the 'anyOf' keyword"
  | .const expected => s!"{expected.compact} was expected"
  | .contains => s!"None of {shown} are valid under the given schema"
  | .contentEncoding name => s!"{shown} is not compliant with {doubleQuoted name} content encoding"
  | .contentMediaType name => s!"{shown} is not compliant with {doubleQuoted name} media type"
  | .enumeration choices => s!"{shown} is not one of {choices.compact}"
  | .exclusiveMaximum limit =>
    s!"{shown} is greater than or equal to the maximum of {limit.render}"
  | .exclusiveMinimum limit =>
    s!"{shown} is less than or equal to the minimum of {limit.render}"
  | .falseSchema => s!"False schema does not allow {shown}"
  | .format name => s!"{shown} is not a {doubleQuoted name}"
  | .maximum limit => s!"{shown} is greater than the maximum of {limit.render}"
  | .maxItems limit => s!"{shown} has more than " ++ counted limit "item" "items"
  | .maxLength limit => s!"{shown} is longer than " ++ counted limit "character" "characters"
  | .maxProperties limit => s!"{shown} has more than " ++ counted limit "property" "properties"
  | .minimum limit => s!"{shown} is less than the minimum of {limit.render}"
  | .minItems limit => s!"{shown} has less than " ++ counted limit "item" "items"
  | .minLength limit => s!"{shown} is shorter than " ++ counted limit "character" "characters"
  | .minProperties limit => s!"{shown} has less than " ++ counted limit "property" "properties"
  | .multipleOf divisor => s!"{shown} is not a multiple of {divisor.render}"
  | .not schema => s!"{schema.compact} is not allowed for {shown}"
  | .oneOfNone => s!"{shown} is not valid under any of the schemas listed in the 'oneOf' keyword"
  | .oneOfSeveral =>
    s!"{shown} is valid under more than one of the schemas listed in the 'oneOf' keyword"
  | .pattern text => s!"{shown} does not match {doubleQuoted text}"
  | .propertyName name cause => describe (Json.quote name) (fun _ => "") cause
  | .required name => s!"{Json.quote name} is a required property"
  | .type [name] => s!"{shown} is not of type {doubleQuoted name}"
  | .type names =>
    let listed := ", ".intercalate (names.map doubleQuoted)
    s!"{shown} is not of types {listed}"
  | .unevaluatedItems unexpected =>
    let shownItems := unexpected.map fun item => singleQuoted item.compact
    s!"Unevaluated items are not allowed ({unexpectedTail shownItems})"
  | .unevaluatedProperties unexpected =>
    s!"Unevaluated properties are not allowed ({unexpectedTail (unexpected.map singleQuoted)})"
  | .uniqueItems => s!"{shown} has non-unique elements"

end Cause

namespace Finding

/-- The wording with the JSON text of the value. -/
def fullText (finding : Finding) : String :=
  let extra allowed :=
    unexpectedTail (((finding.value.items?.getD []).drop allowed).map Json.compact)
  finding.cause.describe finding.value.compact extra

/-- The wording that leaves the value out. -/
def maskedText (finding : Finding) : String :=
  finding.cause.describe "value" fun allowed => s!"{allowed} items"

end Finding

/-- One line of the detailed output: a wording with the place of the keyword and of the
value. -/
structure OutputUnit where
  location : Pointer
  target : Pointer
  text : String
  deriving Repr, Inhabited

/-- A finding as a line of the detailed output that belongs to the keyword at `location`. -/
def Finding.unitAt (finding : Finding) (location target : Pointer) : OutputUnit :=
  ⟨location, target, finding.fullText⟩

/-- What checking a value against a schema gives: the findings of the schema's own demands,
and the detailed output, which also tells what failed inside of alternatives. -/
structure Outcome where
  findings : List Finding
  units : List OutputUnit
  deriving Repr, Inhabited

namespace Outcome

def valid : Outcome := ⟨[], []⟩

/-- Whether there is nothing to report. -/
def isValid (outcome : Outcome) : Bool := outcome.findings.isEmpty

/-- Both reports, the second after the first. -/
def append (first second : Outcome) : Outcome :=
  ⟨first.findings ++ second.findings, first.units ++ second.units⟩

def concat (outcomes : List Outcome) : Outcome :=
  ⟨outcomes.flatMap (·.findings), outcomes.flatMap (·.units)⟩

end Outcome

end ApiLint.Schema
