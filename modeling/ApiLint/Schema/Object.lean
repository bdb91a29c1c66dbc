import ApiLint.Schema.Assertion
import ApiLint.Schema.Frame

/-!
# Keywords about the members of an object

Members are looked at by name, by patterns of names, or because nothing else speaks about
them. When `additionalProperties` forbids members or demands something of them, it applies
the other two keywords as well, member by member; they are then silent themselves.
-/

namespace ApiLint.Schema.Frame

def applyToMember (frame : Frame) (schema : Json) (steps : List String) (name : String)
    (value : Json) : Outcome :=
  frame.applyAt schema steps (frame.target.name name) value

/-- The members that have a schema of their own are accepted by it. -/
def properties (frame : Frame) (schemas members : Json.Members) : Outcome :=
  .concat <| schemas.filterMap fun (name, schema) =>
    (Json.Members.get? name members).map fun value =>
      frame.applyToMember schema ["properties", name] name value

def nameMatches (pattern name : String) : Bool :=
  match Pattern.ofText? pattern.toList with
  | some pattern => pattern.occursIn name.toList
  | none => false

/-- The members whose names match a pattern are accepted by its schema. -/
def patternProperties (frame : Frame) (schemas members : Json.Members) : Outcome :=
  .concat <| schemas.flatMap fun (pattern, schema) =>
    (members.filter fun (name, _) => nameMatches pattern name).map fun (name, value) =>
      frame.applyToMember schema ["patternProperties", pattern] name value

def siblingMembers (frame : Frame) (keyword : String) : Json.Members :=
  ((frame.sibling? keyword).bind Json.members?).getD []

/-- The outcomes for one member: by its name, and by each pattern it matches. -/
def ofMember (frame : Frame) (byName byPattern : Json.Members) (name : String) (value : Json) :
    List Outcome :=
  let own := match Json.Members.get? name byName with
    | some schema => [frame.applyToMember schema ["properties", name] name value]
    | none => []
  own ++ (byPattern.filter fun (pattern, _) => nameMatches pattern name).map
    fun (pattern, schema) =>
      frame.applyToMember schema ["patternProperties", pattern] name value

/-- Whether `additionalProperties` applies the other keywords about members. -/
def takesOver (frame : Frame) : Bool :=
  match frame.sibling? "additionalProperties" with
  | some (.bool false) => true
  | some (.object _) => true
  | _ => false

/-- Every member is accepted by what speaks about it, and a member that nothing else speaks
about by this keyword. Members that are forbidden are named together at the end. -/
def additionalProperties (frame : Frame) (schema : Json) (members : Json.Members) : Outcome :=
  let byName := frame.siblingMembers "properties"
  let byPattern := frame.siblingMembers "patternProperties"
  let known := members.map fun (name, value) =>
    (name, value, frame.ofMember byName byPattern name value)
  match schema with
  | .bool false =>
    let unexpected := (known.filter fun (_, _, outcomes) => outcomes.isEmpty).map (·.1)
    let causes := if unexpected.isEmpty then [] else [.additionalProperties unexpected]
    (Outcome.concat (known.flatMap (·.2.2))).append
      (frame.report "additionalProperties" (.object members) causes)
  | .object _ =>
    .concat <| known.flatMap fun (name, value, outcomes) =>
      if outcomes.isEmpty then
        [frame.applyToMember schema ["additionalProperties"] name value]
      else outcomes
  | _ => .valid

def propertyNames (frame : Frame) (schema : Json) (members : Json.Members) : Outcome :=
  match schema with
  | .bool false =>
    if members.isEmpty then .valid
    else frame.report "propertyNames" (.object members) [.falseSchema]
  | _ =>
    .concat <| members.map fun (name, _) =>
      let outcome := frame.applyHere schema ["propertyNames"] (.string name)
      ⟨outcome.findings.map fun finding =>
          ⟨.propertyName name finding.cause, .object members, frame.target,
            frame.location.name "propertyNames"⟩,
        outcome.units⟩

/-- An object that has some member is accepted by the schema for that member. -/
def dependentSchemas (frame : Frame) (keyword : String) (schemas members : Json.Members) :
    Outcome :=
  frame.gather keyword <| .concat <| schemas.filterMap fun (name, schema) =>
    (Json.Members.get? name members).map fun _ =>
      frame.applyHere schema [keyword, name] (.object members)

/-- An object that has some member has others too, or is accepted by a schema. -/
def dependencies (frame : Frame) (table members : Json.Members) : Outcome :=
  frame.gather "dependencies" <| .concat <| table.filterMap fun (name, operand) =>
    (Json.Members.get? name members).map fun _ =>
      match operand with
      | .array _ =>
        frame.report "dependencies" (.object members) (missingNames (namesIn operand) members)
      | schema => frame.applyHere schema ["dependencies", name] (.object members)

end ApiLint.Schema.Frame
