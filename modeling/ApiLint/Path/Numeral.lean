import ApiLint.Text.Blank

/-!
# Spellings of numbers

A path mixes key names with array indices and with keys that are numbers. Two
readers of such spellings live here. `Numeral.index?` reads an index below
`2 ^ 64`: digits after at most one plus sign. `Numeral.isNumber` recognises the
wider set of spellings that never name a key: blank, decimal and exponent
notation, a signed `Infinity`, and unsigned literals of base 16, 8 and 2.
-/

namespace ApiLint.Numeral

/-- Whether the character is one of the ten ASCII digits. -/
def isDecimal (c : Char) : Bool := '0' ≤ c && c ≤ '9'

/-- The value of a digit of a base up to 36, letters in either case. -/
def digitValue? (base : Nat) (c : Char) : Option Nat :=
  let value :=
    if isDecimal c then c.toNat - 48
    else if 'a' ≤ c && c ≤ 'z' then c.toNat - 87
    else if 'A' ≤ c && c ≤ 'Z' then c.toNat - 55
    else base
  if value < base then some value else none

/-- The number that a row of decimal digits writes. -/
def ofDigits (digits : Text) : Nat :=
  digits.foldl (fun n c => n * 10 + (c.toNat - 48)) 0

/-- The digits after at most one plus sign. -/
def unplussed : Text → Text
  | '+' :: digits => digits
  | digits => digits

/-- An index: one or more digits after at most one plus sign, below `2 ^ 64`. -/
def index? (raw : Text) : Option Nat :=
  let digits := unplussed raw
  if digits ≠ [] ∧ digits.all isDecimal ∧ ofDigits digits < UInt64.size then some (ofDigits digits)
  else none

/-- The text after at most one sign. -/
def unsigned : Text → Text
  | '+' :: rest => rest
  | '-' :: rest => rest
  | rest => rest

/-- Whether the text is empty or an exponent: `e`, at most one sign, digits. -/
def isExponent : Text → Bool
  | [] => true
  | c :: rest =>
    (c == 'e' || c == 'E') && (let digits := unsigned rest; !digits.isEmpty && digits.all isDecimal)

/-- Decimal notation: at most one sign, digits with at most one point among or
beside them, and perhaps an exponent. -/
def isDecimalNotation (raw : Text) : Bool :=
  let body := unsigned raw
  let whole := body.takeWhile isDecimal
  let rest := body.dropWhile isDecimal
  match rest with
  | '.' :: fraction =>
    (!whole.isEmpty || !(fraction.takeWhile isDecimal).isEmpty)
      && isExponent (fraction.dropWhile isDecimal)
  | _ => !whole.isEmpty && isExponent rest

/-- For a literal that starts with `0x`, `0o` or `0b` in either case, whether
digits of its base and nothing else follow; no answer for any other text. -/
def radixLiteral? : Text → Option Bool
  | '0' :: mark :: digits =>
    let base? :=
      if mark = 'x' ∨ mark = 'X' then some 16
      else if mark = 'o' ∨ mark = 'O' then some 8
      else if mark = 'b' ∨ mark = 'B' then some 2
      else none
    base?.map fun base => !digits.isEmpty && digits.all fun c => (digitValue? base c).isSome
  | _ => none

/-- Whether a key reads as a number once surrounding white space is removed.
Words such as `nan` and `inf` are no numbers here, but blank keys are. -/
def isNumber (key : Text) : Bool :=
  let trimmed := key.trim
  if trimmed.isEmpty then true
  else if unsigned trimmed = "Infinity".toList then true
  else match radixLiteral? trimmed with
    | some valid => valid
    | none => isDecimalNotation trimmed

end ApiLint.Numeral
