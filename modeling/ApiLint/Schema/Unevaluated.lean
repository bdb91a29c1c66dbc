import ApiLint.Schema.Combination
import ApiLint.Schema.List
import ApiLint.Schema.Object

/-!
# Parts of a value that no keyword speaks about

A member counts as evaluated when some keyword of the schema, or of a schema that applies to
the same value and accepts it, speaks about the member and accepts it. An item counts as
evaluated when some keyword speaks about its place. The search goes through references, so
it is bounded by the number of schemas it may enter.
-/

namespace ApiLint.Schema

/-- What the search for evaluated parts needs to know: the references, and whether a schema
at a site accepts a value. -/
structure Search where
  registry : Registry
  accepts : Site → Json → Bool

namespace Search

/-- The sites of the schemas that apply to the same value and accept it, for one schema. -/
def appliedTo (search : Search) (site : Site) (value : Json) : List Site :=
  let operand? (keyword : String) : Option Json := site.schema.get? keyword
  let accepted (schemas : List Json) : List Site :=
    (schemas.map site.inner).filter fun inner => search.accepts inner value
  let listed (keyword : String) : List Site :=
    accepted (((operand? keyword).bind Json.items?).getD [])
  let followed (keyword : String) : List Site :=
    match operand? keyword with
    | some (.string reference) => (search.registry.resolve site reference.toList).toOption.toList
    | _ => []
  let recursive := match operand? "$recursiveRef" with
    | some _ => (search.registry.resolveRecursive site).toOption.toList
    | none => []
  let alternatives := match listed "oneOf" with
    | [only] => [only]
    | _ => []
  let branches := match operand? "if" with
    | some condition =>
      let condition := site.inner condition
      if search.accepts condition value then
        condition :: ((operand? "then").map site.inner).toList
      else ((operand? "else").map site.inner).toList
    | none => []
  let dependent := match operand? "dependentSchemas", value with
    | some (.object table), .object members =>
      (table.filter fun (name, _) => (Json.Members.get? name members).isSome).map
        fun (_, schema) => site.inner schema
    | _, _ => []
  followed "$ref" ++ followed "$dynamicRef" ++ recursive ++ dependent ++ branches
    ++ listed "allOf" ++ listed "anyOf" ++ alternatives

/-- Whether a keyword of the schema itself speaks about a member and accepts it. -/
def coversMember (search : Search) (site : Site) (name : String) (value : Json) : Bool :=
  let accepts (schema : Json) : Bool := search.accepts (site.inner schema) value
  let table (keyword : String) : Json.Members :=
    ((site.schema.get? keyword).bind Json.members?).getD []
  let whole (keyword : String) : Bool := (site.schema.get? keyword).any accepts
  ((Json.Members.get? name (table "properties")).any accepts)
    || ((table "patternProperties").any fun (pattern, schema) =>
        Frame.nameMatches pattern name && accepts schema)
    || whole "additionalProperties" || whole "unevaluatedProperties"

def isEvaluatedMember (search : Search) (object : Json) (name : String) (value : Json) :
    Nat → Site → Bool
  | 0, _ => false
  | fuel + 1, site =>
    search.coversMember site name value
      || (search.appliedTo site object).any (isEvaluatedMember search object name value fuel)

/-- Whether a keyword of the schema itself speaks about the item at a place. -/
def coversItem (search : Search) (site : Site) (n : Nat) (item : Json) : Bool :=
  let accepts (schema : Json) : Bool := search.accepts (site.inner schema) item
  let byPlace (keyword : String) : Bool :=
    match site.schema.get? keyword with
    | some (.array schemas) => n < schemas.length
    | _ => false
  let whole (keyword : String) : Bool :=
    match site.schema.get? keyword with
    | some (.array _) => false
    | some _ => true
    | none => false
  byPlace "prefixItems" || byPlace "items" || whole "items"
    || ((site.schema.get? "items").bind Json.items?).isSome && whole "additionalItems"
    || (site.draft = .twenty && (site.schema.get? "contains").any accepts)
    || (site.schema.get? "unevaluatedItems").any accepts

def isEvaluatedItem (search : Search) (list : Json) (n : Nat) (item : Json) : Nat → Site → Bool
  | 0, _ => false
  | fuel + 1, site =>
    search.coversItem site n item
      || (search.appliedTo site list).any (isEvaluatedItem search list n item fuel)

end Search

namespace Frame

def search (frame : Frame) : Search :=
  ⟨frame.registry, fun site value => (frame.apply site [] [] value).isValid⟩

/-- Members that nothing evaluates are not allowed, unless the operand accepts them. -/
def unevaluatedProperties (frame : Frame) (fuel : Nat) (members : Json.Members) : Outcome :=
  let object := Json.object members
  let unexpected := (members.filter fun (name, value) =>
    !frame.search.isEvaluatedMember object name value fuel frame.site).map (·.1)
  let causes := if unexpected.isEmpty then [] else [.unevaluatedProperties unexpected]
  frame.report "unevaluatedProperties" object causes

/-- Items that nothing evaluates are not allowed, unless the operand accepts them. -/
def unevaluatedItems (frame : Frame) (fuel : Nat) (items : List Json) : Outcome :=
  let list := Json.array items
  let unexpected := (items.zipIdx.filter fun (item, n) =>
    !frame.search.isEvaluatedItem list n item fuel frame.site).map (·.1)
  let causes := if unexpected.isEmpty then [] else [.unevaluatedItems unexpected]
  frame.report "unevaluatedItems" list causes

end Frame

end ApiLint.Schema
