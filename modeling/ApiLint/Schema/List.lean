import ApiLint.Schema.Assertion
import ApiLint.Schema.Frame

/-!
# Keywords about the items of a list

Items are looked at by their place, all alike, or all after the first few; or some number
of them has to be accepted by a schema.
-/

namespace ApiLint.Schema.Frame

/-- Some schemas, each with the steps to it, applied to the items of a list by place. -/
def applyToItems (frame : Frame) (applied : List (Json × List String × Json × Nat)) : Outcome :=
  .concat <| applied.map fun (schema, steps, item, n) =>
    frame.applyAt schema steps (frame.target.index n) item

def itemsByPlace (frame : Frame) (keyword : String) (schemas items : List Json) : Outcome :=
  frame.applyToItems <| (schemas.zip items).zipIdx.map fun ((schema, item), n) =>
    (schema, [keyword, toString n], item, n)

def itemsFrom (frame : Frame) (keyword : String) (skipped : Nat) (schema : Json)
    (items : List Json) : Outcome :=
  frame.applyToItems <|
    (items.zipIdx.drop skipped).map fun (item, n) => (schema, [keyword], item, n)

/-- How many items the list of schemas of a keyword speaks about. -/
def placeCount (frame : Frame) (keyword : String) : Nat :=
  (((frame.sibling? keyword).bind Json.items?).getD []).length

/-- What `items` demands: of the first items place by place, of all, or of those that
`prefixItems` leaves. -/
def items (frame : Frame) (operand : Json) (items : List Json) : Outcome :=
  match operand with
  | .array schemas => frame.gather "items" (frame.itemsByPlace "items" schemas items)
  | schema =>
    let skipped := if frame.site.draft = .twenty then frame.placeCount "prefixItems" else 0
    frame.itemsFrom "items" skipped schema items

/-- What is demanded of the items that a list of schemas under `items` leaves. -/
def additionalItems (frame : Frame) (schema : Json) (items : List Json) : Outcome :=
  match frame.sibling? "items" with
  | some (.array schemas) =>
    match schema with
    | .bool false =>
      if items.length ≤ schemas.length then .valid
      else frame.report "additionalItems" (.array items) [.additionalItems schemas.length]
    | .object _ =>
      frame.gather "additionalItems"
        (frame.itemsFrom "additionalItems" schemas.length schema items)
    | _ => .valid
  | _ => .valid

/-- A number of items, within limits, is accepted by a schema. Without a lower limit it is
at least one. -/
def contains (frame : Frame) (schema : Json) (items : List Json) : Outcome :=
  let limit? (keyword : String) : Option Nat :=
    if frame.site.draft.edition ≤ 7 then none else (frame.sibling? keyword).bind count?
  let found := (items.filter (frame.accepts schema)).length
  let enough := (limit? "minContains").getD 1 ≤ found
  let notTooMany := match limit? "maxContains" with
    | some limit => found ≤ limit
    | none => true
  frame.report "contains" (.array items) (demand (enough && notTooMany) .contains)

end ApiLint.Schema.Frame
