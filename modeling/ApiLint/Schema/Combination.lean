import ApiLint.Schema.Frame

/-!
# Keywords that combine schemas

All schemas of a list, one of them or some have to accept the value; a schema must not; one
schema decides which of two others applies; or a reference stands for a schema elsewhere.
-/

namespace ApiLint.Schema.Frame

def allOf (frame : Frame) (schemas : List Json) (value : Json) : Outcome :=
  .concat (frame.alternatives "allOf" schemas value)

/-- Some schema accepts the value. The detailed output lists what each of them misses. -/
def anyOf (frame : Frame) (schemas : List Json) (value : Json) : Outcome :=
  let outcomes := frame.alternatives "anyOf" schemas value
  if outcomes.any (·.isValid) then .valid
  else ⟨(frame.report "anyOf" value [.anyOf]).findings, outcomes.flatMap (·.units)⟩

/-- Exactly one schema accepts the value. The detailed output lists what each of them
misses if none does, and just says so if several do. -/
def oneOf (frame : Frame) (schemas : List Json) (value : Json) : Outcome :=
  let outcomes := frame.alternatives "oneOf" schemas value
  match (outcomes.filter (·.isValid)).length with
  | 0 => ⟨(frame.report "oneOf" value [.oneOfNone]).findings, outcomes.flatMap (·.units)⟩
  | 1 => .valid
  | _ =>
    ⟨(frame.report "oneOf" value [.oneOfSeveral]).findings,
      [⟨frame.location.name "oneOf", frame.target, "more than one subschema succeeded"⟩]⟩

def negation (frame : Frame) (schema value : Json) : Outcome :=
  if frame.accepts schema value then frame.report "not" value [.not schema] else .valid

/-- Values that a schema accepts have to be accepted by a second one, others by a third. -/
def conditional (frame : Frame) (schema value : Json) : Outcome :=
  let branch := if frame.accepts schema value then "then" else "else"
  match frame.sibling? branch with
  | some chosen => frame.applyHere chosen [branch] value
  | none => .valid

/-- The schema that a reference leads to accepts the value. -/
def followed (frame : Frame) (keyword : String) (found : Except ReferenceError Site)
    (value : Json) : Outcome :=
  match found with
  | .ok site => frame.apply site (frame.location.name keyword) frame.target value
  | .error _ => .valid

end ApiLint.Schema.Frame
