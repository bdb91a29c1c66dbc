import ApiLint.Json.Value
import ApiLint.Text.Lines

/-!
# Editions of the schema language

A schema names the edition it is written in by the identifier under `$schema`. Without
one it is read as the latest edition.
-/

namespace ApiLint.Schema

/-- An edition of the schema language. -/
inductive Draft where
  | four
  | six
  | seven
  | nineteen
  | twenty
  deriving DecidableEq, Repr, Inhabited

namespace Draft

/-- The number of an edition; later editions have larger numbers. -/
def edition : Draft → Nat
  | .four => 4
  | .six => 6
  | .seven => 7
  | .nineteen => 2019
  | .twenty => 2020

/-- The organisation under whose name the editions are identified. -/
def host : String := "json-schema.org/"

/-- What the identifiers of an edition begin with. -/
def address : Draft → String
  | .four => "http:" ++ "//" ++ host ++ "draft-04/"
  | .six => "http:" ++ "//" ++ host ++ "draft-06/"
  | .seven => "http:" ++ "//" ++ host ++ "draft-07/"
  | .nineteen => "https:" ++ "//" ++ host ++ "draft/2019-09/"
  | .twenty => "https:" ++ "//" ++ host ++ "draft/2020-12/"

def identifier (draft : Draft) : String := draft.address ++ "schema"

/-- The identifier of a part of an edition that is put together of several. -/
def vocabulary (draft : Draft) (name : String) : String := draft.address ++ "meta/" ++ name

def all : List Draft := [.four, .six, .seven, .nineteen, .twenty]

/-- The edition of an identifier, which may end in an empty fragment. -/
def ofIdentifier? (text : String) : Option Draft :=
  let trimmed := String.ofList (text.toList.reverse.dropWhile (· == '#')).reverse
  all.find? fun draft => draft.identifier == trimmed

/-- Whether a reference hides its neighbours in a schema. -/
def refHidesOthers (draft : Draft) : Bool := draft.edition ≤ 7

def assertsFormats (draft : Draft) : Bool := draft.edition ≤ 7

/-- The keyword that gives a schema its own identifier. -/
def idKeyword (draft : Draft) : String := if draft = .four then "id" else "$id"

/-- The edition of a schema; its identifier if that is unknown. -/
def ofSchema (schema : Json) : Except String Draft :=
  match schema.get? "$schema" with
  | some (.string text) =>
    match ofIdentifier? text with
    | some draft => .ok draft
    | none => .error text
  | _ => .ok .twenty

end Draft

end ApiLint.Schema
