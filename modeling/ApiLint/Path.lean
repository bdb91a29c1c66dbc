import ApiLint.Path.Numeral

/-!
# Paths into a document

A path lists the steps from the root of a document value to one of its parts:
array indices and object keys. A pointer such as `/paths/~1pets/get` writes a
path with `/` before each step; inside a step `~1` stands for `/` and `~0` for
`~`. `Path.display` writes steps as they are, without those escapes.

Only some steps name a token of the source. An index never does, and neither
does a key that reads as a number; `Path.keys` keeps the others.
-/

namespace ApiLint

/-- One step of a path. -/
inductive Segment where
  | index (n : Nat)
  | key (name : Text)
  deriving DecidableEq, Repr, Inhabited

namespace Segment

/-- A step as a pointer spells it: an index if it reads as one, else a key. -/
def parse (raw : Text) : Segment :=
  match Numeral.index? raw with
  | some n => .index n
  | none => .key raw

/-- The key this step names, if that can be a token of the source. -/
def asKey : Segment → Option Text
  | .index _ => none
  | .key name => if Numeral.isNumber name then none else some name

/-- An index in decimal digits, a key as it is. -/
def display : Segment → Text
  | .index n => Nat.toDigits 10 n
  | .key name => name

end Segment

/-- The steps from the root of a document to one of its parts. -/
abbrev Path := List Segment

namespace Path

/-- A pointer step with its escapes undone: first `~1`, then `~0`. -/
def unescape (step : Text) : Text :=
  (step.replacePair '~' '1' '/').replacePair '~' '0' '~'

/-- The path a pointer writes. What stands before the first `/` is ignored. -/
def ofPointer (pointer : Text) : Path :=
  ((pointer.split '/').drop 1).map fun step => .parse (unescape step)

/-- The names that the path passes through, in order, without the steps that
cannot be tokens of the source. -/
def keys (path : Path) : List Text := path.filterMap Segment.asKey

/-- The path with a `/` before each step. -/
def display (path : Path) : Text := path.flatMap fun segment => '/' :: segment.display

end Path

end ApiLint
