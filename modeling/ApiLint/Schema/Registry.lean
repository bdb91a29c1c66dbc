import ApiLint.Path
import ApiLint.Pointer
import ApiLint.Schema.Draft
import ApiLint.Schema.Holding
import ApiLint.Uri

/-!
# References between schemas

A schema with an identifier is a resource, and references in it are read from that
identifier. A registry holds the resources that can be reached, and the anchors that name
parts of them. `Registry.resolve` follows a reference from a site, which is a schema
together with how references in it are read.

An anchor may be dynamic: then the schema entered first, of those that have an anchor of
that name, decides where the reference leads.
-/

namespace ApiLint.Schema

/-- A schema with the identifier that references in it are read from. -/
structure Resource where
  uri : Text
  draft : Draft
  root : Json
  deriving Repr, Inhabited

/-- A name for a part of a resource. -/
structure Anchor where
  uri : Text
  name : Text
  isDynamic : Bool
  draft : Draft
  schema : Json
  deriving Repr, Inhabited

/-- The resources and anchors that references can reach. -/
structure Registry where
  resources : List Resource
  anchors : List Anchor
  deriving Repr, Inhabited

/-- A schema in force, with the identifier that its references are read from, and the
identifiers of the resources entered before, the latest first. -/
structure Site where
  schema : Json
  base : Text
  entered : List Text
  draft : Draft
  deriving Repr, Inhabited

/-- Why a reference leads nowhere. -/
inductive ReferenceError where
  | noAnchor (name : Text)
  | noPart (pointer : Text)
  | noResource (uri : Text)
  deriving Repr, Inhabited

/-- Why a resource with this identifier cannot be fetched. -/
def fetchProblem (uri : Text) : Text :=
  match (Uri.ofText uri).scheme? with
  | some scheme =>
    if scheme = "http".toList ∨ scheme = "https".toList then
      "error sending request for url (".toList ++ uri ++ [')']
    else if scheme = "file".toList then "No such file or directory (os error 2)".toList
    else "Unknown scheme ".toList ++ scheme
  | none => "Unknown scheme ".toList

def ReferenceError.message : ReferenceError → String
  | .noAnchor name => String.ofList ("Anchor '".toList ++ name ++ "' does not exist".toList)
  | .noPart pointer => String.ofList ("Pointer '".toList ++ pointer ++ "' does not exist".toList)
  | .noResource uri =>
    String.ofList ("Resource '".toList ++ uri
      ++ "' is not present in a registry and retrieving it failed: ".toList ++ fetchProblem uri)

/-- The identifier of a schema that has none of its own. -/
def defaultUri : Text := "json-schema:///".toList

/-- A reference read from a base, without its fragment. -/
def absolute (base reference : Text) : Text :=
  (Uri.resolve (Uri.ofText base) { Uri.ofText reference with fragment? := none }).toText

/-- The identifier that a schema gives itself, if it does; a mere fragment is none. -/
def ownUri? (draft : Draft) (base : Text) (schema : Json) : Option Text :=
  match schema.get? draft.idKeyword with
  | some (.string text) =>
    if text.isEmpty || text.startsWith "#" || (draft.refHidesOthers && (schema.get? "$ref").isSome)
    then none
    else some (absolute base text.toList)
  | _ => none

/-- The edition of a schema inside one of the given edition. -/
def draftWithin (outer : Draft) (schema : Json) : Draft :=
  match schema.get? "$schema" with
  | some (.string text) => (Draft.ofIdentifier? text).getD outer
  | _ => outer

def ownAnchors (draft : Draft) (base : Text) (schema : Json) : List Anchor :=
  if draft.refHidesOthers then
    match schema.get? draft.idKeyword with
    | some (.string text) =>
      match text.toList with
      | '#' :: name => if name.isEmpty then [] else [⟨base, name, false, draft, schema⟩]
      | _ => []
    | _ => []
  else
    let named (keyword : String) (isDynamic : Bool) : List Anchor :=
      match schema.get? keyword with
      | some (.string name) => [⟨base, name.toList, isDynamic, draft, schema⟩]
      | _ => []
    named "$anchor" false ++ (if draft = .twenty then named "$dynamicAnchor" true else [])

namespace Registry

def empty : Registry := ⟨[], []⟩

def union (a b : Registry) : Registry := ⟨a.resources ++ b.resources, a.anchors ++ b.anchors⟩

mutual

/-- The resources and anchors of a schema that is read from `base`, and of those inside. -/
def within (draft : Draft) (base : Text) : Json → Registry
  | .object members =>
    let schema := Json.object members
    let draft := draftWithin draft schema
    let own? := ownUri? draft base schema
    let base := own?.getD base
    let resources := own?.toList.map fun uri => ⟨uri, draft, schema⟩
    union ⟨resources, ownAnchors draft base schema⟩ (withinMembers draft base members)
  | _ => empty

/-- The resources and anchors of several schemas. -/
def withinList (draft : Draft) (base : Text) : List Json → Registry
  | [] => empty
  | schema :: rest => (within draft base schema).union (withinList draft base rest)

/-- The resources and anchors of the schemas of a table. -/
def withinTable (draft : Draft) (base : Text) : List (String × Json) → Registry
  | [] => empty
  | (_, schema) :: rest => (within draft base schema).union (withinTable draft base rest)

/-- The resources and anchors of the schemas that some keywords hold. -/
def withinMembers (draft : Draft) (base : Text) : List (String × Json) → Registry
  | [] => empty
  | (keyword, operand) :: rest =>
    let held := match holding keyword operand, operand with
      | .oneSchema, schema => within draft base schema
      | .list, .array schemas => withinList draft base schemas
      | .table, .object table => withinTable draft base table
      | _, _ => empty
    held.union (withinMembers draft base rest)

end

/-- The resources and anchors of a document, which is a resource itself. -/
def ofDocument (draft : Draft) (schema : Json) : Registry :=
  match ownUri? draft defaultUri schema with
  | some _ => within draft defaultUri schema
  | none => union ⟨[⟨defaultUri, draft, schema⟩], []⟩ (within draft defaultUri schema)

def resource? (registry : Registry) (uri : Text) : Option Resource :=
  registry.resources.find? fun resource => resource.uri == uri

def anchor? (registry : Registry) (uri name : Text) : Option Anchor :=
  registry.anchors.find? fun anchor => anchor.uri == uri && anchor.name == name

end Registry

namespace Site

/-- The site of a resource that is entered from this one. -/
def enter (site : Site) (base : Text) (draft : Draft) (schema : Json) : Site :=
  let entered :=
    if site.entered.isEmpty || base != site.base then site.base :: site.entered else site.entered
  ⟨schema, base, entered, draft⟩

/-- The site of a schema inside this one, which may be a resource of its own. -/
def inner (site : Site) (schema : Json) : Site :=
  let draft := draftWithin site.draft schema
  match ownUri? draft site.base schema with
  | some uri => site.enter uri draft schema
  | none => { site with schema := schema, draft := draft }

def ofDocument (draft : Draft) (schema : Json) : Site :=
  ⟨schema, (ownUri? draft defaultUri schema).getD defaultUri, [], draft⟩

def step? (site : Site) (step : Text) : Option Site :=
  match site.schema with
  | .object members => (Json.Members.get? (String.ofList step) members).map site.inner
  | .array items => do
    let n ← Numeral.index? step
    (items[n]?).map site.inner
  | _ => none

/-- The site that several steps lead to. -/
def walk? (site : Site) : List Text → Option Site
  | [] => some site
  | step :: rest => do (← site.step? step).walk? rest

end Site

/-- A text with each percent sign and two hexadecimal digits read as the byte they write. -/
def percentBytes : Text → List UInt8
  | [] => []
  | '%' :: a :: b :: rest =>
    match Numeral.digitValue? 16 a, Numeral.digitValue? 16 b with
    | some high, some low => UInt8.ofNat (16 * high + low) :: percentBytes rest
    | _, _ => 37 :: percentBytes (a :: b :: rest)
  | c :: rest => (String.singleton c).toUTF8.toList ++ percentBytes rest

def percentDecode? (fragment : Text) : Option Text :=
  (String.fromUTF8? ⟨(percentBytes fragment).toArray⟩).map String.toList

namespace Registry

/-- Where an anchor leads. A dynamic one leads to the anchor of its name in the resource
entered first, of those that have one. -/
def followAnchor (registry : Registry) (site : Site) (anchor : Anchor) : Site :=
  let found :=
    if anchor.isDynamic then
      (site.entered.filterMap fun uri =>
        match registry.anchor? uri anchor.name with
        | some other => if other.isDynamic then some other else none
        | none => none).getLast?.getD anchor
    else anchor
  site.enter found.uri found.draft found.schema

def resolve (registry : Registry) (site : Site) (reference : Text) : Except ReferenceError Site :=
  let uri := absolute site.base reference
  match registry.resource? uri with
  | none => .error (.noResource uri)
  | some resource =>
    let root := site.enter uri resource.draft resource.root
    match (Uri.ofText reference).fragment? with
    | none => .ok root
    | some [] => .ok root
    | some ('/' :: rest) =>
      let steps := (Text.split '/' rest).map fun step =>
        Path.unescape ((percentDecode? step).getD step)
      match root.walk? steps with
      | some found => .ok found
      | none => .error (.noPart ('/' :: rest))
    | some name =>
      match registry.anchor? uri name with
      | some anchor => .ok (registry.followAnchor root anchor)
      | none => .error (.noAnchor name)

/-- Whether a schema lets the schema entered first stand for it. -/
def isRecursiveAnchor (schema : Json) : Bool :=
  match schema.get? "$recursiveAnchor" with
  | some (.bool b) => b
  | _ => false

/-- The site of the last resource of a row that lets another stand for it, going from the
latest to the first and stopping at one that does not. -/
def outermost (registry : Registry) (site : Site) : List Text → Site
  | [] => site
  | uri :: rest =>
    match registry.resource? uri with
    | some resource =>
      if isRecursiveAnchor resource.root then
        outermost registry (site.enter uri resource.draft resource.root) rest
      else site
    | none => site

/-- Where the recursive reference leads: to the resource itself, or to the resource entered
first if all on the way let another stand for them. -/
def resolveRecursive (registry : Registry) (site : Site) : Except ReferenceError Site := do
  let found ← registry.resolve site ['#']
  return if isRecursiveAnchor found.schema then registry.outermost found site.entered else found

end Registry

end ApiLint.Schema
