import ApiLint.Json.Printer
import ApiLint.Text.Quoted

/-!
# YAML values

A YAML value is richer than a JSON value: a mapping may have any values for keys, in the
order of the text, and a value may carry a tag. Numbers are those of JSON and may also be
infinite or no number at all.

`Yaml.same` is the equality that tells keys apart. It ignores the order of mappings, and
to it all texts of one number are the same, but an integer never equals a double.
-/

namespace ApiLint

/-- A YAML value. -/
inductive Yaml where
  | null
  | bool (b : Bool)
  | number (n : Json.Number)
  | string (s : String)
  | sequence (items : List Yaml)
  | mapping (entries : List (Yaml × Yaml))
  | tagged (tag : String) (value : Yaml)
  deriving Repr, Inhabited

namespace Yaml

/-- Whether two numbers are the same key: zeros of either sign are. -/
def sameNumber : Json.Number → Json.Number → Bool
  | .int m, .int n => m == n
  | .float x, .float y => x == y || (x.isZero && y.isZero)
  | _, _ => false

mutual

/-- Whether two values are the same key. -/
def same : Yaml → Yaml → Bool
  | .null, .null => true
  | .bool a, .bool b => a == b
  | .number m, .number n => sameNumber m n
  | .string s, .string t => s == t
  | .sequence items, .sequence others => sameItems items others
  | .mapping entries, .mapping others =>
    entries.length == others.length && sameEntries entries others
  | .tagged tag value, .tagged other held => tag == other && same value held
  | _, _ => false

/-- Whether two rows of values are the same, one by one. -/
def sameItems : List Yaml → List Yaml → Bool
  | [], [] => true
  | item :: items, other :: others => same item other && sameItems items others
  | _, _ => false

/-- Whether each entry is also among the others. -/
def sameEntries : List (Yaml × Yaml) → List (Yaml × Yaml) → Bool
  | [], _ => true
  | (key, value) :: rest, others =>
    others.any (fun entry => same key entry.1 && same value entry.2) && sameEntries rest others

end

/-- Exponents of ten from -5 to 15 are positional, and exponents show no plus sign. -/
def numberLayout : Layout := ⟨-5, 15, false⟩

def numberText : Json.Number → String
  | .int n => toString n
  | .float (.finite negative mantissa exponent) =>
    String.ofList (numberLayout.finite negative mantissa exponent)
  | .float (.infinite negative) => if negative then "-.inf" else ".inf"
  | .float .nan => ".nan"

/-- How a key is mentioned when it stands in a mapping twice. -/
def mentionKey : Yaml → String
  | .null => "with null key"
  | .bool b => s!"with key `{b}`"
  | .number n => s!"with key {numberText n}"
  | .string s => s!"with key {String.ofList (Text.quoted s.toList)}"
  | _ => "in YAML map"

end Yaml

end ApiLint
