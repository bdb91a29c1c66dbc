import ApiLint.Yaml.Fault

/-!
# Places in a YAML text

YAML has its own idea of a line: besides the line feed, a carriage return, the two
together, and three further characters end one. A `Spot` counts lines and columns
by that rule. Here too are the classes of characters that notation depends on; each
takes the character that may be missing at the end of the text.
-/

namespace ApiLint.Yaml

/-- The number of characters before a place, and its line and column from 0. -/
structure Spot where
  index : Nat
  place : Position
  deriving DecidableEq, Repr, Inhabited

def breaksLine (c : Char) : Bool :=
  c == '\n' || c == '\r' || c.toNat == 0x85 || c.toNat == 0x2028 || c.toNat == 0x2029

def isBlankHere : Option Char → Bool
  | some c => c == ' ' || c == '\t'
  | none => false

/-- Whether a line ends here and another one follows. -/
def isBreakHere : Option Char → Bool
  | some c => breaksLine c
  | none => false

def isLineEndHere : Option Char → Bool
  | some c => breaksLine c
  | none => true

/-- Whether a word ends here: at a blank, a tab, or the end of a line. -/
def isGapHere : Option Char → Bool
  | some c => c == ' ' || c == '\t' || breaksLine c
  | none => true

def isNameChar (c : Char) : Bool := c.isAlphanum || c == '_' || c == '-'

/-- Whether one of these characters stands here. -/
def isOneOf (chars : List Char) : Option Char → Bool
  | some c => chars.contains c
  | none => false

/-- The spelling of a line break inside a scalar: a line feed for all but two. -/
def normalBreak (c : Char) : Char :=
  if c.toNat == 0x2028 || c.toNat == 0x2029 then c else '\n'

/-- The number of characters from `i` on that pass the test. -/
def countWhile (test : Char → Bool) (cs : Array Char) (i : Nat) : Nat → Nat
  | 0 => 0
  | fuel + 1 =>
    match cs[i]? with
    | some c => if test c then countWhile test cs (i + 1) fuel + 1 else 0
    | none => 0

namespace Spot

def origin : Spot := ⟨0, .origin⟩

def column (spot : Spot) : Nat := spot.place.column

/-- The character `k` places on. -/
def char? (spot : Spot) (cs : Array Char) (k : Nat) : Option Char := cs[spot.index + k]?

/-- The place `n` characters on, within the line. -/
def skip (spot : Spot) (n : Nat) : Spot :=
  ⟨spot.index + n, ⟨spot.place.line, spot.place.column + n⟩⟩

/-- The place after the line break that stands here. -/
def skipBreak (spot : Spot) (cs : Array Char) : Spot :=
  let width := if spot.char? cs 0 == some '\r' && spot.char? cs 1 == some '\n' then 2 else 1
  ⟨spot.index + width, ⟨spot.place.line + 1, 0⟩⟩

/-- The place after the characters that pass the test, none of which breaks a line. -/
def skipWhile (spot : Spot) (cs : Array Char) (test : Char → Bool) : Spot :=
  spot.skip (countWhile test cs spot.index cs.size)

/-- The characters that pass the test, and the place after them. -/
def span (spot : Spot) (cs : Array Char) (test : Char → Bool) : Text × Spot :=
  let next := spot.skipWhile cs test
  ((cs.extract spot.index next.index).toList, next)

/-- The place after blanks and tabs. -/
def skipBlanks (spot : Spot) (cs : Array Char) : Spot :=
  spot.skipWhile cs fun c => c == ' ' || c == '\t'

/-- The place after a comment, if one stands here. -/
def skipComment (spot : Spot) (cs : Array Char) : Spot :=
  if spot.char? cs 0 == some '#' then spot.skipWhile cs fun c => !breaksLine c else spot

/-- Whether a line starts here with three of this character and a gap. -/
def isMarker (spot : Spot) (cs : Array Char) (c : Char) : Bool :=
  spot.column == 0 && spot.char? cs 0 == some c && spot.char? cs 1 == some c
    && spot.char? cs 2 == some c && isGapHere (spot.char? cs 3)

/-- Whether a document starts or ends here. -/
def isDocumentMarker (spot : Spot) (cs : Array Char) : Bool :=
  spot.isMarker cs '-' || spot.isMarker cs '.'

def fault {α : Type} (spot : Spot) (problem : Problem) (activity : Activity) (start : Position) :
    Except Fault α :=
  .error ⟨problem, spot.place, some ⟨activity, start⟩⟩

end Spot

end ApiLint.Yaml
