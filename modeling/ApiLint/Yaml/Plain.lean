import ApiLint.Path.Numeral
import ApiLint.Yaml.Value

/-!
# What plain scalars mean

A plain scalar is null, a truth value, a number, or else a string. A row of digits with
a needless zero in front is a string. Integers of base 16, 8 and 2 have a small letter
after their zero. An integer that needs more than 64 bits, but not more than 128, cannot
be represented, and a larger one is read as a double; a decimal too large for a double is
a string.
-/

namespace ApiLint.Yaml.Plain

/-- The spellings of null, the empty scalar aside. -/
def nullWords : List String := ["null", "Null", "NULL", "~"]

/-- The truth value that a scalar spells. -/
def bool? (text : Text) : Option Bool :=
  if ["true", "True", "TRUE"].any fun word => word.toList == text then some true
  else if ["false", "False", "FALSE"].any fun word => word.toList == text then some false
  else none

def isNull (text : Text) : Bool := nullWords.any fun word => word.toList == text

/-- Whether digits follow a zero in front, after at most one sign. -/
def hasNeedlessZero (text : Text) : Bool :=
  match Numeral.unsigned text with
  | '0' :: digit :: digits => (digit :: digits).all Numeral.isDecimal
  | _ => false

/-- The number that one or more digits of a base write. -/
def natural? (base : Nat) (digits : Text) : Option Nat :=
  if digits.isEmpty then none
  else
    digits.foldl (fun sum? c => do return (← sum?) * base + (← Numeral.digitValue? base c)) (some 0)

/-- The number that a literal of base 16, 8 or 2 writes. -/
def radix? : Text → Option Nat
  | '0' :: 'x' :: digits => natural? 16 digits
  | '0' :: 'o' :: digits => natural? 8 digits
  | '0' :: 'b' :: digits => natural? 2 digits
  | _ => none

def integer? (text : Text) : Option Int :=
  let body := Numeral.unsigned text
  let magnitude? := (radix? body).or (if hasNeedlessZero text then none else natural? 10 body)
  magnitude?.map fun n => if text.head? == some '-' then -(n : Int) else n

/-- The digits of decimal notation and the power of ten they are multiplied by. -/
def decimalParts (text : Text) : Nat × Int :=
  let body := Numeral.unsigned text
  let whole := body.takeWhile Numeral.isDecimal
  let rest := body.dropWhile Numeral.isDecimal
  let (fraction, rest) := match rest with
    | '.' :: more => (more.takeWhile Numeral.isDecimal, more.dropWhile Numeral.isDecimal)
    | _ => ([], rest)
  let exponent : Int := match rest with
    | _ :: '-' :: digits => -(Numeral.ofDigits digits : Int)
    | _ :: digits => Numeral.ofDigits (Numeral.unplussed digits)
    | [] => 0
  (Numeral.ofDigits (whole ++ fraction), exponent - fraction.length)

def double? (text : Text) : Option Double :=
  let body := Numeral.unsigned text
  if [".inf", ".Inf", ".INF"].any fun word => word.toList == body then
    some (.infinite (text.head? == some '-'))
  else if [".nan", ".NaN", ".NAN"].any fun word => word.toList == text then some .nan
  else if Numeral.isDecimalNotation text then
    let (digits, power) := decimalParts text
    let x := Double.ofDecimal (text.head? == some '-') digits power
    if x.isFinite then some x else none
  else none

/-- What reading a scalar as an integer gives: nothing, a value, or an integer that is
too large to represent. -/
inductive IntegerReading where
  | none
  | value (n : Int)
  | tooLarge (n : Int)
  deriving DecidableEq, Repr

/-- How many integers can be represented, `2 ^ 128`; half of them may be negative. -/
def representable : Int := 0x100000000000000000000000000000000

def integer (text : Text) : IntegerReading :=
  match integer? text with
  | none => .none
  | some n =>
    if Json.holdsInt n then .value n
    else if -(representable / 2) ≤ n ∧ n < representable then .tooLarge n
    else .none

/-- What a plain scalar means; the integer itself if that is too large. -/
def meaning (text : Text) : Except Int Yaml :=
  if text.isEmpty || isNull text then .ok .null
  else match bool? text with
    | some b => .ok (.bool b)
    | none =>
      match integer text with
      | .value n => .ok (.number (.int n))
      | .tooLarge n => .error n
      | .none =>
        match if hasNeedlessZero text then none else double? text with
        | some x => .ok (.number (.float x))
        | none => .ok (.string (String.ofList text))

end ApiLint.Yaml.Plain
