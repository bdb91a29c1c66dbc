import ApiLint.Text.Blank
import ApiLint.Yaml.Printer

/-!
# YAML values as JSON values

Tags are dropped, numbers without a JSON counterpart become null, and the keys of a
mapping become names: strings as they are, other scalars by their text, and everything
else by what the printer writes, without white space at its end. Keys that become the
same name leave one member, the last.
-/

namespace ApiLint.Yaml

/-- The name that a key becomes. A key that cannot be written becomes the empty name. -/
def keyName : Yaml → String
  | .string s => s
  | .number n => numberText n
  | .bool b => toString b
  | .null => "null"
  | key => String.ofList (Text.trimEnd ((print? key).getD []))

mutual

/-- The JSON value that a YAML value stands for. -/
def toJson : Yaml → Json
  | .null => .null
  | .bool b => .bool b
  | .number (.int n) => .number (.int n)
  | .number (.float x) => if x.isFinite then .number (.float x) else .null
  | .string s => .string s
  | .sequence items => .array (itemsToJson items)
  | .mapping entries => .object (entriesToJson entries [])
  | .tagged _ value => toJson value

/-- The JSON values of several values. -/
def itemsToJson : List Yaml → List Json
  | [] => []
  | item :: rest => toJson item :: itemsToJson rest

/-- The members that entries add to those held. -/
def entriesToJson : List (Yaml × Yaml) → Json.Members → Json.Members
  | [], held => held
  | (key, value) :: rest, held => entriesToJson rest (held.insert (keyName key) (toJson value))

end

end ApiLint.Yaml
