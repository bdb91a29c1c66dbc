import ApiLint.Number.Double

/-!
# The shortest decimal of a double

`shortest` gives the decimal with the fewest digits that still reads back as the
same double, and among those the one nearest to it. It works on exact fractions:
the decimals that read back are those between the midpoints to the neighbouring
doubles, ends included when the mantissa is even. For one digit, two digits and
so on up to seventeen, the two decimals of that many digits on either side of the
double are tried.

How the digits are laid out is a separate decision, taken by a `Layout`.
-/

namespace ApiLint

/-- The number `digits * 10 ^ power`. -/
structure Decimal where
  digits : Nat
  power : Int
  deriving DecidableEq, Repr, Inhabited

namespace Decimal

/-- The same number without trailing zeros among its digits. -/
def trimmed (digits : Nat) (power : Int) : Nat → Decimal
  | 0 => ⟨digits, power⟩
  | fuel + 1 =>
    if digits ≠ 0 ∧ digits % 10 = 0 then trimmed (digits / 10) (power + 1) fuel else ⟨digits, power⟩

def digitText (d : Decimal) : List Char := Nat.toDigits 10 d.digits

end Decimal

namespace Shortest

/-- The values that round to a double, scaled by four so that its midpoints to
both neighbours are whole: `low`, the double itself and `high`, each times
`2 ^ scale`; the ends belong to the interval when `closed`. -/
structure Interval where
  low : Nat
  middle : Nat
  high : Nat
  scale : Int
  closed : Bool

/-- The interval of `mantissa * 2 ^ exponent`. Below a power of two the lower
neighbour is half as far away. -/
def interval (mantissa : Nat) (exponent : Int) : Interval :=
  let below :=
    if mantissa = Double.mantissaBound / 2 ∧ exponent > Double.minExponent then 1 else 2
  { low := 4 * mantissa - below
    middle := 4 * mantissa
    high := 4 * mantissa + 2
    scale := exponent - 2
    closed := mantissa % 2 == 0 }

/-- `a * 2 ^ s` compared with `b * 10 ^ p`, exactly. -/
def compareScaled (a : Nat) (s : Int) (b : Nat) (p : Int) : Ordering :=
  compare (a * Double.pow 2 s * Double.pow 10 (-p)) (b * Double.pow 10 p * Double.pow 2 (-s))

/-- Whether `digits * 10 ^ power` reads back as the double of the interval. -/
def Interval.holds (i : Interval) (digits : Nat) (power : Int) : Bool :=
  match compareScaled i.low i.scale digits power, compareScaled i.high i.scale digits power with
  | .lt, .gt => true
  | .eq, .gt => i.closed
  | .lt, .eq => i.closed
  | _, _ => false

/-- Whether the upper of two neighbouring decimals is nearer to the double; a tie
goes to the even digits. -/
def Interval.upperNearer (i : Interval) (lower : Nat) (power : Int) : Bool :=
  match compareScaled (2 * i.middle) i.scale (2 * lower + 1) power with
  | .gt => true
  | .eq => lower % 2 == 1
  | .lt => false

/-- The best decimal in units of `10 ^ power`, if one reads back. -/
def Interval.at? (i : Interval) (power : Int) : Option Decimal :=
  let lower := (i.middle * Double.pow 2 i.scale * Double.pow 10 (-power))
    / (Double.pow 10 power * Double.pow 2 (-i.scale))
  match i.holds lower power, i.holds (lower + 1) power with
  | true, true => some ⟨if i.upperNearer lower power then lower + 1 else lower, power⟩
  | true, false => some ⟨lower, power⟩
  | false, true => some ⟨lower + 1, power⟩
  | false, false => none

/-- Tries units of `10 ^ power` and then ever smaller ones. -/
def Interval.search (i : Interval) (power : Int) : Nat → Option Decimal
  | 0 => none
  | fuel + 1 =>
    match i.at? power with
    | some d => some d
    | none => i.search (power - 1) fuel

/-- A power of ten that is at least as large as `mantissa * 2 ^ exponent`, and not
by much: three tenths of the binary exponent, rounded up. -/
def powerAbove (mantissa : Nat) (exponent : Int) : Int :=
  ((Double.bitLength mantissa + exponent) * 30103) / 100000 + 1

end Shortest

/-- The shortest decimal that reads back as `mantissa * 2 ^ exponent`. -/
def shortest (mantissa : Nat) (exponent : Int) : Decimal :=
  if mantissa = 0 then ⟨0, 0⟩
  else
    let interval := Shortest.interval mantissa exponent
    match interval.search (Shortest.powerAbove mantissa exponent) 24 with
    | some d => Decimal.trimmed d.digits d.power 24
    | none => ⟨0, 0⟩

/-- How the digits of a double are laid out: the decimal exponents that are written
positionally, and whether a positive exponent shows its sign. -/
structure Layout where
  lowest : Int
  highest : Int
  plus : Bool

namespace Layout

def zeros (n : Nat) : List Char := List.replicate n '0'

/-- The exponent of ten of a number written with one digit before the point. -/
def scientificExponent (d : Decimal) : Int := d.power + d.digitText.length - 1

/-- Positional notation, with at least one digit on either side of the point. -/
def positional (d : Decimal) : List Char :=
  let digits := d.digitText
  let whole : Int := digits.length + d.power
  if d.power ≥ 0 then digits ++ zeros d.power.toNat ++ ['.', '0']
  else if whole > 0 then digits.take whole.toNat ++ '.' :: digits.drop whole.toNat
  else ['0', '.'] ++ zeros (-whole).toNat ++ digits

/-- One digit, the others after a point if there are any, and the exponent. -/
def scientific (layout : Layout) (d : Decimal) : List Char :=
  let exponent := scientificExponent d
  let sign : List Char := if exponent < 0 then ['-'] else if layout.plus then ['+'] else []
  let mantissa := match d.digitText with
    | [] => []
    | [digit] => [digit]
    | digit :: more => digit :: '.' :: more
  mantissa ++ 'e' :: sign ++ Nat.toDigits 10 exponent.natAbs

/-- The text of `± mantissa * 2 ^ exponent`. -/
def finite (layout : Layout) (negative : Bool) (mantissa : Nat) (exponent : Int) : List Char :=
  let d := shortest mantissa exponent
  let body :=
    if mantissa = 0 then ['0', '.', '0']
    else if layout.lowest ≤ scientificExponent d ∧ scientificExponent d ≤ layout.highest then
      positional d
    else layout.scientific d
  if negative then '-' :: body else body

end Layout

end ApiLint
