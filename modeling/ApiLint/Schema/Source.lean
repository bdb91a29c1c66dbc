import ApiLint.Schema.Check
import ApiLint.Schema.Meta

/-!
# Schemas ready for use

A JSON value becomes a schema when its edition is known, when all that it refers to can be
reached, when the schema of schemas of its edition accepts it, and when its patterns are
well-formed and its references lead somewhere. What is wrong first, in that order, is
reported.
-/

namespace ApiLint.Schema

/-- Why a value is no schema. -/
inductive SourceError where
  | unknownEdition (identifier : String)
  | badReference (error : ReferenceError)
  | notASchema (finding : Finding)
  | badPattern (shown : Json)
  deriving Repr, Inhabited

def SourceError.message : SourceError → String
  | .unknownEdition identifier => s!"Unknown specification: {identifier}"
  | .badReference error => error.message
  | .notASchema finding => finding.fullText
  | .badPattern shown => s!"{shown.compact} is not a " ++ doubleQuoted "regex"

mutual

/-- The resources that a schema and those inside refer to, by reading `$ref` from `base`. -/
def referred (draft : Draft) (base : Text) : Json → List Text
  | .object members =>
    let schema := Json.object members
    let draft := draftWithin draft schema
    let base := (ownUri? draft base schema).getD base
    let own := match schema.get? "$ref" with
      | some (.string reference) => [absolute base reference.toList]
      | _ => []
    own ++ referredMembers draft base members
  | _ => []

/-- The resources that several schemas refer to. -/
def referredList (draft : Draft) (base : Text) : List Json → List Text
  | [] => []
  | schema :: rest => referred draft base schema ++ referredList draft base rest

/-- The resources that the schemas of a table refer to. -/
def referredTable (draft : Draft) (base : Text) : List (String × Json) → List Text
  | [] => []
  | (_, schema) :: rest => referred draft base schema ++ referredTable draft base rest

/-- The resources that the schemas that some keywords hold refer to. -/
def referredMembers (draft : Draft) (base : Text) : List (String × Json) → List Text
  | [] => []
  | (keyword, operand) :: rest =>
    let held := match holding keyword operand, operand with
      | .oneSchema, schema => referred draft base schema
      | .list, .array schemas => referredList draft base schemas
      | .table, .object table => referredTable draft base table
      | _, _ => []
    held ++ referredMembers draft base rest

end

/-- The references that have been followed, by the identifier they were read from. -/
abbrev Followed := List (Text × Text)

/-- The keyword operands that are only looked at when a reference leads there. -/
def isStore (keyword : String) : Bool := ["$defs", "definitions", "contentSchema"].contains keyword

/-- The first fault of the patterns and references of a schema and of all that it applies,
in the order of keywords; each reference is followed once. -/
def inspect (registry : Registry) : Nat → Site → Followed → Except SourceError Followed
  | 0, _, followed => .ok followed
  | fuel + 1, site, followed =>
    match site.schema with
    | .object members =>
      (activeKeywords site.draft members).foldlM (fun followed (keyword, operand) => do
        match keyword, operand with
        | "pattern", .string text =>
          if (Pattern.ofText? text.toList).isNone then throw (.badPattern operand)
        | "patternProperties", .object table =>
          if table.any fun (name, _) => (Pattern.ofText? name.toList).isNone then
            throw (.badPattern operand)
        | _, _ => pure ()
        let followed ← match keyword, operand with
          | "$ref", .string reference | "$dynamicRef", .string reference =>
            if followed.contains (site.base, reference.toList) then pure followed
            else
              match registry.resolve site reference.toList with
              | .error error => throw (.badReference error)
              | .ok found => inspect registry fuel found ((site.base, reference.toList) :: followed)
          | _, _ => pure followed
        if isStore keyword then return followed
        (heldBy keyword operand).foldlM
          (fun followed schema => inspect registry fuel (site.inner schema) followed) followed)
        followed
    | _ => .ok followed

/-- A schema ready for use: where it stands, and what its references can reach. -/
structure Source where
  site : Site
  registry : Registry
  deriving Repr, Inhabited

namespace Source

def trusted (draft : Draft) (schema : Json) : Source :=
  ⟨Site.ofDocument draft schema, (Registry.ofDocument draft schema).union Meta.registry⟩

def ofJson (schema : Json) : Except SourceError Source := do
  let draft ← (Draft.ofSchema schema).mapError .unknownEdition
  let source := trusted draft schema
  match (referred draft source.site.base schema).find? fun uri =>
      (source.registry.resource? uri).isNone with
  | some uri => throw (.badReference (.noResource uri))
  | none => pure ()
  match (check Meta.registry (.ofDocument draft (Meta.schemaOf draft)) schema).findings with
  | finding :: _ => throw (.notASchema finding)
  | [] => pure ()
  let _ ← inspect source.registry (source.registry.size * source.registry.size + 1) source.site []
  return source

def check (source : Source) (value : Json) : Outcome :=
  Schema.check source.registry source.site value

end Source

end ApiLint.Schema
