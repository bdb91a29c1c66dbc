import ApiLint.Number.Double

/-!
# JSON values

Numbers are exact integers or doubles, and the two kinds are kept apart. An
object is an association list in increasing order of its names, each name once;
`Json.Members.insert` keeps it so, and the last value inserted under a name wins.
Names are ordered by code point, which is also the order of their UTF-8 bytes.
-/

namespace ApiLint

/-- A JSON number: an integer that fits in 64 bits, or a double. -/
inductive Json.Number where
  | int (n : Int)
  | float (x : Double)
  deriving DecidableEq, Repr, Inhabited

/-- Whether an integer is kept exactly: from `-2 ^ 63` to below `2 ^ 64`. -/
def Json.holdsInt (n : Int) : Bool := -0x8000000000000000 ≤ n && n < 0x10000000000000000

/-- A JSON value. -/
inductive Json where
  | null
  | bool (b : Bool)
  | number (n : Json.Number)
  | string (s : String)
  | array (items : List Json)
  | object (members : List (String × Json))
  deriving Repr, Inhabited

namespace Json

/-- The name-value pairs of an object, in increasing order of the names. -/
abbrev Members := List (String × Json)

namespace Members

/-- The members with `value` under `name`, in place of any earlier one. -/
def insert (name : String) (value : Json) : Members → Members
  | [] => [(name, value)]
  | (other, held) :: rest =>
    if name < other then (name, value) :: (other, held) :: rest
    else if name = other then (name, value) :: rest
    else (other, held) :: insert name value rest

def get? (name : String) : Members → Option Json
  | [] => none
  | (other, value) :: rest => if other = name then some value else get? name rest

/-- The members that a list of pairs describes, later pairs replacing earlier ones. -/
def ofList (pairs : List (String × Json)) : Members :=
  pairs.foldl (fun members (name, value) => insert name value members) []

end Members

/-- The members of an object; none for any other value. -/
def members? : Json → Option Members
  | .object members => some members
  | _ => none

/-- The value under a name of an object. -/
def get? (name : String) : Json → Option Json
  | .object members => Members.get? name members
  | _ => none

def string? : Json → Option String
  | .string s => some s
  | _ => none

def items? : Json → Option (List Json)
  | .array items => some items
  | _ => none

end Json

end ApiLint
