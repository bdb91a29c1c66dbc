/-!
# Binary floating-point numbers

A double is a sign, a mantissa and a power of two, kept exactly: a finite double
stands for `± mantissa * 2 ^ exponent`. `Double.round` builds the double nearest
to a quotient of naturals, a tie going to the even mantissa. Every double that is
built here is in its canonical form, in which the mantissa is below `2 ^ 53` and
the exponent is as small as that allows, but not below `-1074`; so doubles of the
same number are equal up to the sign of zero.

Comparison goes through exact products, so it is right for numbers of any size.
-/

namespace ApiLint

/-- A binary floating-point number of 64 bits. -/
inductive Double where
  | finite (negative : Bool) (mantissa : Nat) (exponent : Int)
  | infinite (negative : Bool)
  | nan
  deriving DecidableEq, Repr, Inhabited

namespace Double

/-- How many bits a mantissa has. -/
def precision : Nat := 53

def minExponent : Int := -1074

def maxExponent : Int := 971

/-- The number of bits of `n`; none for zero. -/
def bitLength (n : Nat) : Nat := if n = 0 then 0 else Nat.log2 n + 1

/-- The quotient rounded to the nearest natural number, a tie going to the even one. -/
def roundQuotient (numerator denominator : Nat) : Nat :=
  let quotient := numerator / denominator
  let twice := 2 * (numerator % denominator)
  if twice > denominator ∨ (twice = denominator ∧ quotient % 2 = 1) then quotient + 1
  else quotient

/-- `base ^ e` as a factor of a numerator: itself, or one when `e` is negative. -/
def pow (base : Nat) (e : Int) : Nat := base.pow e.toNat

/-- One past the largest mantissa: `2 ^ precision`. -/
def mantissaBound : Nat := 0x20000000000000

/-- The double nearest to `± numerator / denominator`. Numbers that round to
`2 ^ 1024` or more become infinite. The denominator has to be positive. -/
def round (negative : Bool) (numerator denominator : Nat) : Double :=
  if numerator = 0 then .finite negative 0 minExponent
  else
    let estimate : Int := (bitLength numerator : Int) - bitLength denominator - precision
    let atExponent (e : Int) : Nat :=
      roundQuotient (numerator * pow 2 (-e)) (denominator * pow 2 e)
    let fits (e : Int) : Bool :=
      decide (numerator * pow 2 (-e) < mantissaBound * (denominator * pow 2 e))
    let smallest := if fits estimate then estimate else estimate + 1
    let exponent := max smallest minExponent
    let mantissa := atExponent exponent
    let (mantissa, exponent) :=
      if mantissa = mantissaBound then (mantissaBound / 2, exponent + 1)
      else (mantissa, exponent)
    if exponent > maxExponent then .infinite negative else .finite negative mantissa exponent

/-- Powers of ten past these bounds make any number of doubles infinite or zero. -/
def powerBound : Int := 400

/-- The double nearest to `± digits * 10 ^ power`. -/
def ofDecimal (negative : Bool) (digits : Nat) (power : Int) : Double :=
  if digits = 0 then .finite negative 0 minExponent
  else
    let size : Int := (Nat.toDigits 10 digits).length + power
    if size > powerBound then .infinite negative
    else if size < -powerBound then .finite negative 0 minExponent
    else round negative (digits * pow 10 power) (pow 10 (-power))

def ofInt (n : Int) : Double := round (decide (n < 0)) n.natAbs 1

def isFinite : Double → Bool
  | .finite .. => true
  | _ => false

/-- A finite double as a fraction: a signed numerator and a positive denominator. -/
def fraction? : Double → Option (Int × Nat)
  | .finite negative mantissa exponent =>
    let numerator : Int := mantissa * pow 2 exponent
    some (if negative then -numerator else numerator, pow 2 (-exponent))
  | _ => none

def isZero : Double → Bool
  | .finite _ 0 _ => true
  | _ => false

/-- The integer a finite double equals, if it equals one. -/
def toInt? (x : Double) : Option Int :=
  match x.fraction? with
  | some (numerator, denominator) =>
    if numerator % denominator = 0 then some (numerator / denominator) else none
  | none => none

end Double

end ApiLint
