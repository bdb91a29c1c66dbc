import ApiLint.Pattern
import ApiLint.Schema.Finding
import ApiLint.Schema.Registry

/-!
# Keywords at work

A frame is what a keyword knows when it is applied: the schema it stands in with its other
keywords, the place of that schema and of the value, and how a schema is applied to a part
of the value. A keyword is a function from its frame, its operand and the value to an
outcome.
-/

namespace ApiLint.Schema

/-- How a schema at a site and at a keyword location is applied to a value at a place. -/
abbrev Apply := Site → (location target : Pointer) → Json → Outcome

/-- What a keyword knows besides its operand and the value. -/
structure Frame where
  registry : Registry
  site : Site
  siblings : Json.Members
  location : Pointer
  target : Pointer
  apply : Apply

namespace Frame

/-- The operand of another keyword of the schema. -/
def sibling? (frame : Frame) (keyword : String) : Option Json :=
  Json.Members.get? keyword frame.siblings

/-- A schema inside the current one, some steps further, applied to a value at a place. -/
def applyAt (frame : Frame) (schema : Json) (steps : List String) (target : Pointer)
    (value : Json) : Outcome :=
  frame.apply (frame.site.inner schema) (frame.location ++ steps.map String.toList) target value

/-- A schema inside the current one applied to the same value. -/
def applyHere (frame : Frame) (schema : Json) (steps : List String) (value : Json) : Outcome :=
  frame.applyAt schema steps frame.target value

/-- Whether a schema inside the current one has nothing to say about a value. -/
def accepts (frame : Frame) (schema value : Json) : Bool :=
  (frame.applyAt schema [] [] value).isValid

def report (frame : Frame) (keyword : String) (value : Json) (causes : List Cause) : Outcome :=
  let location := frame.location.name keyword
  let findings := causes.map fun cause => ⟨cause, value, frame.target, location⟩
  ⟨findings, findings.map fun finding => finding.unitAt location frame.target⟩

/-- An outcome in whose detailed output all findings stand at a keyword itself. -/
def gather (frame : Frame) (keyword : String) (outcome : Outcome) : Outcome :=
  ⟨outcome.findings,
    outcome.findings.map fun finding => finding.unitAt (frame.location.name keyword) frame.target⟩

def alternatives (frame : Frame) (keyword : String) (schemas : List Json) (value : Json) :
    List Outcome :=
  schemas.zipIdx.map fun (schema, n) =>
    frame.applyHere schema [keyword, toString n] value

end Frame

end ApiLint.Schema
