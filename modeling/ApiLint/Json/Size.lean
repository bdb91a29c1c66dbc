import ApiLint.Json.Value

/-!
# The size of JSON values
-/

namespace ApiLint.Json

mutual

/-- The number of values that a value consists of, itself included. -/
def nodeCount : Json → Nat
  | .array items => nodeCountItems items + 1
  | .object members => nodeCountMembers members + 1
  | _ => 1

def nodeCountItems : List Json → Nat
  | [] => 0
  | item :: rest => nodeCount item + nodeCountItems rest

/-- The number of values in some members. -/
def nodeCountMembers : List (String × Json) → Nat
  | [] => 0
  | (_, value) :: rest => nodeCount value + nodeCountMembers rest

end

mutual

/-- How many values stand inside one another, the names of members counting as values. -/
def depth : Json → Nat
  | .array items => depthItems items + 1
  | .object members => depthMembers members + 1
  | _ => 1

def depthItems : List Json → Nat
  | [] => 0
  | item :: rest => max (depth item) (depthItems rest)

def depthMembers : List (String × Json) → Nat
  | [] => 0
  | (_, value) :: rest => max (depth value) (depthMembers rest)

end

end ApiLint.Json
