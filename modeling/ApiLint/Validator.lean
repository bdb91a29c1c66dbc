import ApiLint.Document
import ApiLint.Schema.Source
import ApiLint.Schema.Swagger
import ApiLint.Validation

/-!
# Validating a document against a schema

A document is read, and what the schema finds in its value becomes a list of details, one
for each finding and in the same order. A finding about a choice of schemas that all reject
a part of the document holds what each of them misses there: those lines of the detailed
output that belong to a keyword strictly inside the choice, and to that part of the
document or to something inside it.
-/

namespace ApiLint

namespace Schema

def Cause.code : Cause → String
  | .required _ => "OBJECT_MISSING_REQUIRED_PROPERTY"
  | .additionalProperties _ => "OBJECT_ADDITIONAL_PROPERTIES"
  | .type _ => "INVALID_TYPE"
  | .enumeration _ => "ENUM_MISMATCH"
  | .pattern _ => "PATTERN"
  | .format _ => "INVALID_FORMAT"
  | .oneOfNone => Detail.choiceCode
  | .oneOfSeveral => "ONE_OF_MULTIPLE"
  | .anyOf => "ANY_OF_MISSING"
  | .minItems _ => "ARRAY_LENGTH_SHORT"
  | .maxItems _ => "ARRAY_LENGTH_LONG"
  | .uniqueItems => "ARRAY_UNIQUE"
  | .minLength _ => "MIN_LENGTH"
  | .maxLength _ => "MAX_LENGTH"
  | .minimum _ => "MINIMUM"
  | .maximum _ => "MAXIMUM"
  | _ => "SCHEMA_VALIDATION_FAILED"

def OutputUnit.code : String := "SCHEMA_VALIDATION_FAILED"

def OutputUnit.detail (unit : OutputUnit) : Detail :=
  .single OutputUnit.code unit.text (.ofPointer unit.target.render)

/-- Whether a pointer, as a text, leads further than another one: the shorter text and a
slash stand at its front. -/
def leadsInside (outer pointer : Text) : Bool := (Text.after? (outer ++ ['/']) pointer).isSome

/-- The lines of the detailed output that lie strictly inside the keyword at `location` and
are about the part of the document at `target` or something inside it. -/
def alternativesOf (location target : Pointer) (units : List OutputUnit) : List OutputUnit :=
  units.filter fun unit =>
    leadsInside location.render unit.location.render
      && (unit.target.render == target.render || leadsInside target.render unit.target.render)

namespace Finding

def detailText (finding : Finding) : String :=
  match finding.cause with
  | .required name => s!"Missing required property: {name}"
  | .additionalProperties unexpected =>
    "Additional properties not allowed: " ++ ",".intercalate unexpected
  | _ => finding.maskedText

/-- The wording of a choice that no alternative accepts. -/
def choiceText : String := "Data does not match any schemas from 'oneOf'"

def detail (units : List OutputUnit) (finding : Finding) : Detail :=
  let path := Path.ofPointer finding.target.render
  match finding.cause with
  | .oneOfNone =>
    match alternativesOf finding.location finding.target units with
    | [] => .single Detail.choiceCode choiceText path
    | inner => .ofChoice choiceText path (inner.map OutputUnit.detail)
  | cause => .single cause.code finding.detailText path

end Finding

/-- The first line of the wording of a rejection. -/
def headline : String := "Swagger schema validation failed."

def Outcome.verdict (outcome : Outcome) : Verdict :=
  if outcome.isValid then .ok ()
  else
    let details := outcome.findings.map (Finding.detail outcome.units)
    let lines := details.map fun detail => "\n  " ++ detail.message
    .error (.invalid (headline ++ String.join lines) details)

/-- The verdict on the text of a document that claims to come from a path, when `check` finds
what is wrong with its value. -/
def verdictOn (check : Json → Outcome) (path text : Text) (options : ValidationOptions) :
    Verdict :=
  match readDocument path text with
  | .error error => .error (.malformed (String.ofList path) error.message)
  | .ok value => if options.schema then (check value).verdict else .ok ()

namespace Source

/-- The schema that documents are checked against when no other is given. -/
def swagger : Source := .trusted .four Swagger.document

def validateText (source : Source) (path text : Text) (options : ValidationOptions) : Verdict :=
  verdictOn source.check path text options

end Source

end Schema

end ApiLint
