import ApiLint.Json.Value

/-!
# Comparing JSON values

Two integers are the same when they are equal; an integer and a double, or two doubles,
when the doubles nearest to them are. Lists are the same item by item, objects name by
name. The order of numbers is exact.
-/

namespace ApiLint.Json

namespace Number

def toDouble : Number → Double
  | .int n => Double.ofInt n
  | .float x => x

/-- A finite number as a fraction: a signed numerator and a positive denominator. -/
def fraction? : Number → Option (Int × Nat)
  | .int n => some (n, 1)
  | .float x => x.fraction?

def isBelow (a b : Number) : Bool :=
  match a.fraction?, b.fraction? with
  | some (m, d), some (n, e) => decide (m * e < n * d)
  | _, _ => false

/-- Whether two numbers count as equal. -/
def same : Number → Number → Bool
  | .int m, .int n => m == n
  | a, b => a.toDouble == b.toDouble || (a.toDouble.isZero && b.toDouble.isZero)

/-- The integer a number equals, if it equals one. -/
def toInt? : Number → Option Int
  | .int n => some n
  | .float x => x.toInt?

end Number

mutual

/-- Whether two values count as equal. -/
def same : Json → Json → Bool
  | .null, .null => true
  | .bool a, .bool b => a == b
  | .number a, .number b => a.same b
  | .string a, .string b => a == b
  | .array a, .array b => sameItems a b
  | .object a, .object b => sameMembers a b
  | _, _ => false

def sameItems : List Json → List Json → Bool
  | [], [] => true
  | a :: as, b :: bs => same a b && sameItems as bs
  | _, _ => false

/-- Whether two lists of members are equal name by name. -/
def sameMembers : List (String × Json) → List (String × Json) → Bool
  | [], [] => true
  | (m, a) :: as, (n, b) :: bs => m == n && same a b && sameMembers as bs
  | _, _ => false

end

/-- Whether no two items of a list count as equal. -/
def allDiffer : List Json → Bool
  | [] => true
  | item :: rest => !rest.any item.same && allDiffer rest

end ApiLint.Json
