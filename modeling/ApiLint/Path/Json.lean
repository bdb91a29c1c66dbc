import ApiLint.Json.Value
import ApiLint.Number.Shortest
import ApiLint.Path
import ApiLint.Text.Quoted

/-!
# Paths as JSON

In JSON a path is a list: an index is a non-negative integer below `2 ^ 64`, a
key a string. The two kinds of step keep apart, so the key `"5"` and the index `5`
are different steps.
-/

namespace ApiLint

namespace Path

/-- Why a JSON value is no path. -/
inductive JsonError where
  | notAList (value : Json)
  | notASegment (item : Json)
  deriving Repr, Inhabited

/-- A double without an exponent, whatever its size. -/
def plainText : Double → Text
  | .finite negative mantissa exponent => Layout.finite ⟨-400, 400, false⟩ negative mantissa exponent
  | .infinite negative => if negative then "-inf".toList else "inf".toList
  | .nan => "NaN".toList

/-- What a value that is no list is called. -/
def describe : Json → String
  | .null => "null"
  | .bool b => s!"boolean `{b}`"
  | .number (.int n) => s!"integer `{n}`"
  | .number (.float x) => s!"floating point `{String.ofList (plainText x)}`"
  | .string s => s!"string {String.ofList (Text.quoted s.toList)}"
  | .array _ => "sequence"
  | .object _ => "map"

def JsonError.message : JsonError → String
  | .notAList value => s!"invalid type: {describe value}, expected a sequence"
  | .notASegment _ => "data did not match any variant of untagged enum PathSegment"

end Path

namespace Segment

def toJson : Segment → Json
  | .index n => .number (.int n)
  | .key name => .string (String.ofList name)

/-- The step that a JSON value is, if it is one. -/
def ofJson? : Json → Option Segment
  | .number (.int n) => if 0 ≤ n ∧ n < UInt64.size then some (.index n.toNat) else none
  | .string s => some (.key s.toList)
  | _ => none

end Segment

namespace Path

def toJson (path : Path) : Json := .array (path.map Segment.toJson)

def ofItems : List Json → Except JsonError Path
  | [] => .ok []
  | item :: rest =>
    match Segment.ofJson? item with
    | none => .error (.notASegment item)
    | some segment =>
      match ofItems rest with
      | .error e => .error e
      | .ok path => .ok (segment :: path)

def ofJson : Json → Except JsonError Path
  | .array items => ofItems items
  | value => .error (.notAList value)

end Path

end ApiLint
